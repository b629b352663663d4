import SqlBuilder.Value.Display
import SqlBuilder.Value.Size

/-!
# Placeholders

Compiled SQL marks each bound value by a question mark. A question mark inside a quoted literal is
no placeholder: single quotes enclose texts, double quotes enclose identifiers. Reading from left
to right, a quote opens a literal and the next quote of the same kind closes it, so a doubled quote
closes and reopens, which leaves the text between untouched.
-/

set_option autoImplicit false

namespace SqlBuilder.Sql

/-- The quote of the literal that a position lies in, if it lies in one. -/
abbrev Quoting := Option Char

/-- Whether a character encloses literals. -/
def isQuote (c : Char) : Bool :=
  c == '\'' || c == '"'

/-- The literal that the position after a character lies in. -/
def Quoting.step (quoting : Quoting) (c : Char) : Quoting :=
  match quoting with
  | some quote => if c == quote then none else some quote
  | none => if isQuote c then some c else none

/-- The literal that the position after some characters lies in. -/
def Quoting.after (quoting : Quoting) (cs : List Char) : Quoting :=
  cs.foldl Quoting.step quoting

/-- Whether a character is a placeholder where it stands. -/
def Quoting.marks (quoting : Quoting) (c : Char) : Bool :=
  quoting.isNone && c == '?'

/-- The offsets of the placeholders, when the text starts at a given offset. -/
def placeholdersFrom : Quoting → Nat → List Char → List Nat
  | _, _, [] => []
  | quoting, offset, c :: cs =>
    let later := placeholdersFrom (quoting.step c) (offset + 1) cs
    if quoting.marks c then offset :: later else later

/-- The offsets of the placeholders of a text, in increasing order. -/
def placeholderPositions (sql : String) : List Nat :=
  placeholdersFrom none 0 sql.toList

/-- The text of a number of placeholders. -/
def placeholders (count : Nat) : String :=
  commaSeparated (List.replicate count "?")

/-- The text of as many placeholders as a value says; none for a count that is not positive. -/
def placeholdersOf (count : Value) : Except Error String :=
  match count with
  | .bool b => .ok (placeholders b.toNat)
  | .int n => (listSize n).map placeholders
  | _ => .error .wrongType

/-- Compiled SQL with the values of its placeholders, from left to right. -/
structure Compiled where
  /-- The text. -/
  sql : String
  /-- The bound values. -/
  params : List Value
  deriving Inhabited

/-- How many placeholders the text has. -/
def Compiled.placeholderCount (compiled : Compiled) : Nat :=
  (placeholderPositions compiled.sql).length

/-- The placeholders of two texts in a row are those of the first and, from where it left off,
those of the second. -/
theorem placeholdersFrom_append (quoting : Quoting) (offset : Nat) (xs ys : List Char) :
    placeholdersFrom quoting offset (xs ++ ys) =
      placeholdersFrom quoting offset xs ++
        placeholdersFrom (quoting.after xs) (offset + xs.length) ys := by
  induction xs generalizing quoting offset with
  | nil => rfl
  | cons c cs ih =>
    simp only [List.cons_append, placeholdersFrom, ih, List.length_cons, Quoting.after,
      List.foldl_cons, Nat.add_assoc, Nat.add_comm 1]
    split <;> rfl

end SqlBuilder.Sql
