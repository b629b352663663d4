import SqlBuilder.Value.Basic

/-!
# Rows

A row gives each column name one value. A name that occurs twice keeps its first place and takes
its last value.
-/

set_option autoImplicit false

namespace SqlBuilder

/-- The values of a row by column name, in column order. -/
structure Row where
  /-- The columns with their values. -/
  pairs : List (String × Value)
  deriving Inhabited

namespace Row

/-- The pairs with the value of one column set. -/
def putIn (name : String) (value : Value) : List (String × Value) → List (String × Value)
  | [] => [(name, value)]
  | (name', value') :: rest =>
    if name' = name then (name', value) :: rest else (name', value') :: putIn name value rest

/-- A row with the value of one column set. -/
def put (row : Row) (name : String) (value : Value) : Row :=
  ⟨putIn name value row.pairs⟩

/-- The row with the given columns set one after another. -/
def ofPairs (pairs : List (String × Value)) : Row :=
  pairs.foldl (fun row pair => row.put pair.1 pair.2) ⟨[]⟩

/-- The row of columns and values that correspond; what is left over on either side is dropped. -/
def zip (columns : List String) (values : List Value) : Row :=
  ofPairs (columns.zip values)

/-- The value of a column. -/
def get? (row : Row) (name : String) : Option Value :=
  row.pairs.lookup name

/-- The values of a row. -/
def values (row : Row) : List Value :=
  row.pairs.map Prod.snd

/-- A row as a value. -/
def toValue (row : Row) : Value :=
  .mapping (row.pairs.map fun pair => (.text pair.1, pair.2))

/-- A column that is not there yet goes to the end. -/
theorem putIn_of_notMem {name : String} {value : Value} {pairs : List (String × Value)}
    (h : name ∉ pairs.map Prod.fst) : putIn name value pairs = pairs ++ [(name, value)] := by
  induction pairs with
  | nil => rfl
  | cons pair rest ih =>
    obtain ⟨name', value'⟩ := pair
    simp only [List.map_cons, List.mem_cons, not_or] at h
    rw [putIn, if_neg (Ne.symm h.1), ih h.2, List.cons_append]

end Row

end SqlBuilder
