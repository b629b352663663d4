import SqlBuilder.Error

/-!
# Sizes

A number can ask for something of its own size: so many placeholders, so many zero bytes. A size is
a machine word with a sign. The entries of a list take eight bytes each, and such a word has to
count these too; this holds as well when a range, which takes no room itself, is written out as a
list. How much memory there is beyond what a machine word can count is not limited here.
-/

set_option autoImplicit false

namespace SqlBuilder

/-- So many entries that a machine word cannot count their bytes. -/
def listLimit : Int :=
  Int.pow 2 60

/-- The length of the list that a number asks for; a negative number asks for no entries. -/
def listSize (n : Int) : Except Error Nat :=
  if Int.pow 2 63 ≤ n ∨ n < -Int.pow 2 63 then .error .overflow
  else if listLimit ≤ n then .error .outOfMemory
  else .ok n.toNat

namespace Value

/-- What a value yields when it is iterated, and how the iteration ends. A range is measured before
it yields anything; a faulty stream yields its items before it fails. -/
def yielded (v : Value) : List Value × Except Error Unit :=
  match v with
  | range start stop step =>
    match listSize (rangeSize start stop step) with
    | .ok _ => ((rangeItems start stop step).map int, .ok ())
    | .error e => ([], .error e)
  | series (.faulty wording) items => (items, .error (.interrupted wording))
  | v =>
    match v.elements? with
    | some found => (found, .ok ())
    | none => ([], .error .wrongType)

/-- Everything that a value yields when it is iterated, as a list. -/
def items (v : Value) : Except Error (List Value) :=
  v.yielded.2.map fun _ => v.yielded.1

end Value

end SqlBuilder
