import SqlBuilder.Text.Blank

/-!
# Tests for null

A bare null test is `IS NULL` or `IS NOT NULL` in any case, with blanks around and between the
words. In these keywords the dotless and the dotted `i` count as `I`, and the long `s` as `S`.
`mentionsNull` is the weaker test that some operators need: the word appears anywhere.
-/

set_option autoImplicit false

namespace SqlBuilder.NullTest

/-- The ASCII capital that a character counts as in a keyword. -/
def fold (c : Char) : Char :=
  if c == 'ı' || c == 'İ' then 'I'
  else if c == 'ſ' then 'S'
  else c.toUpper

/-- The characters after a keyword, if they start with it. -/
def afterKeyword? : List Char → List Char → Option (List Char)
  | [], cs => some cs
  | _ :: _, [] => none
  | k :: keyword, c :: cs => if fold c == k then afterKeyword? keyword cs else none

/-- The characters after at least one blank. -/
def afterBlanks? : List Char → Option (List Char)
  | [] => none
  | c :: cs => if Text.isBlank c then some (cs.dropWhile Text.isBlank) else none

/-- Whether the characters are the keyword NULL and blanks. -/
def endsInNull (cs : List Char) : Bool :=
  match afterKeyword? ['N', 'U', 'L', 'L'] cs with
  | some rest => rest.all Text.isBlank
  | none => false

/-- The characters after the keyword NOT and the blanks that follow it. -/
def afterNot? (cs : List Char) : Option (List Char) :=
  (afterKeyword? ['N', 'O', 'T'] cs).bind afterBlanks?

/-- Whether the characters are a bare null test. -/
def isBareChars (cs : List Char) : Bool :=
  match (afterKeyword? ['I', 'S'] (cs.dropWhile Text.isBlank)).bind afterBlanks? with
  | none => false
  | some rest =>
    match afterNot? rest with
    | some tail => endsInNull tail
    | none => endsInNull rest

/-- Whether a text is a bare null test. -/
def isBare (s : String) : Bool :=
  isBareChars s.toList

/-- The letters of the word that operators are searched for. -/
def nullLetters : List Char := ['n', 'u', 'l', 'l']

/-- Whether the word NULL appears in some characters, in any case; only ASCII letters have `n`, `u`
and `l` as their lower case. -/
def mentionsNullChars : List Char → Bool
  | [] => false
  | c :: cs => ((c :: cs).take 4).map Char.toLower == nullLetters || mentionsNullChars cs

/-- Whether the word NULL appears in a text, in any case. -/
def mentionsNull (s : String) : Bool :=
  mentionsNullChars s.toList

end SqlBuilder.NullTest
