import SqlBuilder.Text.CharacterSets

/-!
# Blank characters, trimming and words

A character is blank when it separates words: the line and field separators of ASCII and the
space characters of Unicode. Zero-width characters and the byte-order mark are not blank.
`trim` drops the blanks at both ends, `words` gives the maximal blank-free runs in order; both
are instances of operations on lists with any kind of separator.
-/

set_option autoImplicit false

namespace SqlBuilder.Text

/-- The blank code points. -/
def blankRanges : Ranges :=
  [(0x09, 0x0D), (0x1C, 0x20), (0x85, 0x85), (0xA0, 0xA0), (0x1680, 0x1680), (0x2000, 0x200A),
    (0x2028, 0x2029), (0x202F, 0x202F), (0x205F, 0x205F), (0x3000, 0x3000)]

/-- Whether a character separates words. -/
def isBlank (c : Char) : Bool :=
  blankRanges.holds c.toNat

/-- A list without the leading elements that are separators. -/
def trimLeftBy {α : Type} (separates : α → Bool) (xs : List α) : List α :=
  xs.dropWhile separates

/-- A list without the separators at both ends. -/
def trimBy {α : Type} (separates : α → Bool) (xs : List α) : List α :=
  (trimLeftBy separates (trimLeftBy separates xs).reverse).reverse

/-- The maximal runs without separators, in order. -/
def wordsBy {α : Type} (separates : α → Bool) : List α → List (List α)
  | [] => []
  | x :: xs =>
    if separates x then wordsBy separates xs
    else
      match xs with
      | [] => [[x]]
      | y :: _ =>
        if separates y then [x] :: wordsBy separates xs
        else
          match wordsBy separates xs with
          | [] => [[x]]
          | word :: rest => (x :: word) :: rest

/-- A text without the blanks at its ends. -/
def trim (s : String) : String :=
  String.ofList (trimBy isBlank s.toList)

/-- The words of a text. -/
def words (s : String) : List String :=
  (wordsBy isBlank s.toList).map String.ofList

end SqlBuilder.Text
