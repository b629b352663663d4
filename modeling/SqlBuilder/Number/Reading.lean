import SqlBuilder.Text.Blank
import SqlBuilder.Text.CharacterSets
import SqlBuilder.Number.Decimal

/-!
# Reading numbers from text

Integers and floating-point numbers are read leniently: decimal digits of every script count, a
single underscore may stand between two digits, and spaces around the number are ignored. The
separators of ASCII below the space are not such spaces. Decimals are read in their own strict
notation.
-/

set_option autoImplicit false

namespace SqlBuilder.Number

/-- The greatest number of digits of an integer that is read from text. -/
def digitLimit : Nat := 4300

/-- A character beyond ASCII as numbers see it: a digit, a space, or a character of no use. -/
def numeralChar (c : Char) : Char :=
  if c.toNat < 0x80 then c
  else
    match Text.digitValue? c with
    | some value => Nat.digitChar value
    | none => if Text.isBlank c then ' ' else '?'

/-- The spaces that may surround a number. -/
def isNumeralSpace (c : Char) : Bool :=
  c == ' ' || (0x09 ≤ c.toNat && c.toNat ≤ 0x0D)

/-- The characters of a numeral without the spaces around it. -/
def trimNumeral (cs : List Char) : List Char :=
  ((cs.dropWhile isNumeralSpace).reverse.dropWhile isNumeralSpace).reverse

/-- The characters without underscores, if each underscore stands between two digits. -/
def dropUnderscores? : Bool → List Char → Option (List Char)
  | _, [] => some []
  | _, [c] => if c == '_' then none else some [c]
  | afterDigit, c :: d :: cs =>
    if c == '_' then
      if afterDigit && d.isDigit then dropUnderscores? false (d :: cs) else none
    else (dropUnderscores? c.isDigit (d :: cs)).map (c :: ·)

/-- A leading sign and what follows it. -/
def splitSign : List Char → Bool × List Char
  | '-' :: cs => (true, cs)
  | '+' :: cs => (false, cs)
  | cs => (false, cs)

/-- The number that a row of decimal digits denotes. -/
def digitsToNat (cs : List Char) : Nat :=
  cs.foldl (fun total c => 10 * total + (c.toNat - '0'.toNat)) 0

/-- The integer that a numeral of ASCII characters denotes. -/
def readIntChars? (cs : List Char) : Option Int :=
  let (negative, body) := splitSign (trimNumeral cs)
  match dropUnderscores? false body with
  | none => none
  | some digits =>
    if digits.isEmpty || !digits.all Char.isDigit || digitLimit < digits.length then none
    else
      let magnitude : Int := digitsToNat digits
      some (if negative then -magnitude else magnitude)

/-- The integer that a text denotes. -/
def readInt? (s : String) : Option Int :=
  readIntChars? (s.toList.map numeralChar)

/-- The parts of a number in decimal notation: coefficient and exponent. -/
def readScientific? (cs : List Char) : Option (Nat × Int) :=
  let whole := cs.takeWhile Char.isDigit
  let rest := cs.dropWhile Char.isDigit
  let (fraction, rest) :=
    match rest with
    | '.' :: more => (more.takeWhile Char.isDigit, more.dropWhile Char.isDigit)
    | _ => ([], rest)
  if whole.isEmpty && fraction.isEmpty then none
  else
    let coefficient := digitsToNat (whole ++ fraction)
    let shift : Int := -(fraction.length : Int)
    match rest with
    | [] => some (coefficient, shift)
    | mark :: more =>
      let (negative, digits) := splitSign more
      if (mark == 'e' || mark == 'E') && !digits.isEmpty && digits.all Char.isDigit then
        let power : Int := digitsToNat digits
        some (coefficient, shift + if negative then -power else power)
      else none

/-- The floating-point number that a numeral of ASCII characters denotes. -/
def readBinaryChars? (cs : List Char) : Option Binary :=
  match dropUnderscores? false (trimNumeral cs) with
  | none => none
  | some plain =>
    let (negative, body) := splitSign plain
    let word := String.ofList (body.map Char.toLower)
    if word == "nan" then some .nan
    else if word == "inf" || word == "infinity" then some (.infinite negative)
    else (readScientific? body).map fun (coefficient, exponent) =>
      .ofDecimal negative coefficient exponent

/-- The floating-point number that a text denotes. -/
def readBinary? (s : String) : Option Binary :=
  readBinaryChars? (s.toList.map numeralChar)

/-- The decimal that a text denotes. -/
def readDecimal? (s : String) : Option Decimal :=
  let (negative, body) := splitSign s.toList
  let lower := body.map Char.toLower
  let undefined? (signalling : Bool) (digits : List Char) : Option Decimal :=
    if digits.all Char.isDigit then some (.nan negative signalling (digitsToNat digits)) else none
  match lower with
  | 's' :: 'n' :: 'a' :: 'n' :: digits => undefined? true digits
  | 'n' :: 'a' :: 'n' :: digits => undefined? false digits
  | ['i', 'n', 'f'] => some (.infinite negative)
  | ['i', 'n', 'f', 'i', 'n', 'i', 't', 'y'] => some (.infinite negative)
  | _ => (readScientific? body).map fun (coefficient, exponent) =>
      .finite negative coefficient exponent

end SqlBuilder.Number
