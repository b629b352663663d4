import SqlBuilder.Text.Printable

/-!
# Quoted texts

A text is quoted with single quotes, or with double quotes when it holds a single quote and no
double quote. The quote in use, the backslash, tab, newline and carriage return are escaped by a
backslash; every other character that is not printable is written as a hexadecimal escape of two,
four or eight digits, the shortest that fits.
-/

set_option autoImplicit false

namespace SqlBuilder.Text

/-- The hexadecimal digit of a value below sixteen. -/
def hexDigit (value : Nat) : Char :=
  Nat.digitChar (value % 16)

/-- The last `width` hexadecimal digits of a number. -/
def hexDigits : Nat → Nat → List Char
  | 0, _ => []
  | width + 1, value => hexDigits width (value / 16) ++ [hexDigit value]

/-- The quote that a text is written in: double only to save escaping single ones. -/
def chooseQuote (single double : Bool) : Char :=
  if single && !double then '"' else '\''

/-- The escape of a character by its number. -/
def numericEscape (code : Nat) : List Char :=
  if code < 0x100 then '\\' :: 'x' :: hexDigits 2 code
  else if code < 0x10000 then '\\' :: 'u' :: hexDigits 4 code
  else '\\' :: 'U' :: hexDigits 8 code

/-- How one character stands inside quotes, given the quote that is escaped and whether the
character is shown as itself. -/
def escapeChar (quote : Char) (shown : Bool) (c : Char) : List Char :=
  if c == quote || c == '\\' then ['\\', c]
  else if c == '\t' then ['\\', 't']
  else if c == '\n' then ['\\', 'n']
  else if c == '\r' then ['\\', 'r']
  else if shown then [c]
  else numericEscape c.toNat

/-- A text in quotes. -/
def quoted (s : String) : String :=
  let cs := s.toList
  let quote := chooseQuote (cs.contains '\'') (cs.contains '"')
  String.ofList ([quote] ++ cs.flatMap (fun c => escapeChar quote (isPrintable c) c) ++ [quote])

/-- Bytes in quotes, marked by a leading `b`; only printable ASCII is shown as itself. Of the two
quotes, the escaped one may depend on the one in use. -/
def quotedBytes (escaped : Char → Char) (bytes : List UInt8) : String :=
  let cs := bytes.map fun byte => Char.ofNat byte.toNat
  let quote := chooseQuote (cs.contains '\'') (cs.contains '"')
  let shown (c : Char) : Bool := 0x20 ≤ c.toNat && c.toNat < 0x7F
  String.ofList
    (['b', quote] ++ cs.flatMap (fun c => escapeChar (escaped quote) (shown c) c) ++ [quote])

end SqlBuilder.Text
