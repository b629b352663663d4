import SqlBuilder.Proofs.Neutral
import SqlBuilder.Sql.NamedBinds

/-!
# Named binds in one pass

Naming the placeholders of a text takes three steps: colons are escaped, the placeholders of the
escaped text are found, and they are replaced from the last to the first. `nameFrom` does all of it
in one pass from left to right, and `toNamedBinds_eq` shows that the two agree on every text.
-/

set_option autoImplicit false

namespace SqlBuilder.Sql

/-- The characters with named binds for their placeholders, numbered from `number` on, and with
escaped colons; `before` is the character that precedes them. -/
def nameFrom : Option Char → Quoting → Nat → List Char → List Char
  | _, _, _, [] => []
  | before, quoting, number, c :: cs =>
    if quoting.marks c then
      ':' :: (bindName number).toList ++ nameFrom (some c) (quoting.step c) (number + 1) cs
    else if c == ':' && !shieldsColon before && startsWord cs then
      '\\' :: c :: nameFrom (some c) (quoting.step c) number cs
    else c :: nameFrom (some c) (quoting.step c) number cs

/-- The names of so many placeholders from a number on. -/
def bindNamesFrom (number count : Nat) : List String :=
  (List.range' number count).map bindName

/-- The names of all placeholders. -/
theorem bindNamesFrom_zero (count : Nat) :
    bindNamesFrom 0 count = (List.range count).map bindName := by
  rw [bindNamesFrom, List.range_eq_range']

/-- The first name and those after it. -/
theorem bindNamesFrom_succ (number count : Nat) :
    bindNamesFrom number (count + 1) = bindName number :: bindNamesFrom (number + 1) count := by
  rw [bindNamesFrom, List.range'_succ, List.map_cons, bindNamesFrom]

/-! ## Replacing from the end -/

/-- The last replacements come first. -/
theorem nameAt_step (cs : List Char) (bind : Nat × String) (rest : List (Nat × String)) :
    nameAt cs (bind :: rest) = spliceAt (nameAt cs rest) bind.1 (':' :: bind.2.toList) := rfl

/-- Replacing behind a character keeps it. -/
theorem nameAt_cons (c : Char) (cs : List Char) (binds : List (Nat × String)) :
    nameAt (c :: cs) (binds.map (Prod.map (1 + ·) id)) = c :: nameAt cs binds := by
  induction binds with
  | nil => rfl
  | cons bind rest ih =>
    rw [List.map_cons, nameAt_step, ih, nameAt_step, spliceAt, spliceAt]
    simp only [Prod.map, id, Nat.add_comm 1 bind.1]
    rfl

/-- The characters with named binds for their placeholders, in one pass. -/
def fillFrom : Quoting → Nat → List Char → List Char
  | _, _, [] => []
  | quoting, number, c :: cs =>
    if quoting.marks c then
      ':' :: (bindName number).toList ++ fillFrom (quoting.step c) (number + 1) cs
    else c :: fillFrom (quoting.step c) number cs

/-- Replacing all placeholders from the last to the first is one pass from left to right. -/
theorem nameAt_eq_fillFrom (quoting : Quoting) (number : Nat) (cs : List Char) :
    nameAt cs ((placeholdersFrom quoting 0 cs).zip
      (bindNamesFrom number (placeholdersFrom quoting 0 cs).length)) =
      fillFrom quoting number cs := by
  induction cs generalizing quoting number with
  | nil => rfl
  | cons c cs ih =>
    have shifted : placeholdersFrom (quoting.step c) 1 cs =
        (placeholdersFrom (quoting.step c) 0 cs).map (1 + ·) :=
      placeholdersFrom_add (quoting.step c) 1 0 cs
    have later (names : List String) :
        ((placeholdersFrom (quoting.step c) 0 cs).map (1 + ·)).zip names =
          ((placeholdersFrom (quoting.step c) 0 cs).zip names).map (Prod.map (1 + ·) id) :=
      List.zip_map_left
    rw [placeholdersFrom, fillFrom, Nat.zero_add, shifted]
    by_cases marked : quoting.marks c = true
    · simp only [marked, if_true, List.length_cons, List.length_map]
      rw [bindNamesFrom_succ, List.zip_cons_cons, nameAt_step, later, nameAt_cons, ih]
      rfl
    · simp only [marked, Bool.false_eq_true, if_false, List.length_map]
      rw [later, nameAt_cons, ih]

/-! ## Escaping first -/

/-- Escaping colons does not change which placeholders are filled. -/
theorem fillFrom_escapeColons {quoting : Quoting} (h : quoting.Regular) (before : Option Char)
    (number : Nat) (cs : List Char) :
    fillFrom quoting number (escapeColons before cs) = nameFrom before quoting number cs := by
  induction cs generalizing quoting before number with
  | nil => rfl
  | cons c cs ih =>
    rw [escapeColons, nameFrom]
    by_cases escaped : (c == ':' && !shieldsColon before && startsWord cs) = true
    · have colon : c = ':' := by
        simp only [Bool.and_eq_true, beq_iff_eq] at escaped
        exact escaped.1.1
      -- The backslash that is put before a colon neither marks a place nor changes the quoting.
      have unmarked : quoting.marks c = false := by
        rw [colon]
        exact quoting.marks_of_not_isScanned (by decide)
      have backslash : quoting.marks '\\' = false := quoting.marks_of_not_isScanned (by decide)
      have kept : quoting.step '\\' = quoting := Quoting.step_of_not_isScanned h (by decide)
      simp only [escaped, if_true, fillFrom, backslash, kept, unmarked, Bool.false_eq_true,
        if_false]
      rw [ih (h.step c)]
    · simp only [escaped, Bool.false_eq_true, if_false, fillFrom]
      split
      · rw [ih (h.step c)]
      · rw [ih (h.step c)]

/-- Escaping colons keeps the number of placeholders. -/
theorem length_placeholdersFrom_escapeColons {quoting : Quoting} (h : quoting.Regular)
    (before : Option Char) (start offset : Nat) (cs : List Char) :
    (placeholdersFrom quoting start (escapeColons before cs)).length =
      (placeholdersFrom quoting offset cs).length := by
  induction cs generalizing quoting before start offset with
  | nil => rfl
  | cons c cs ih =>
    rw [escapeColons]
    by_cases escaped : (c == ':' && !shieldsColon before && startsWord cs) = true
    · have colon : c = ':' := by
        simp only [Bool.and_eq_true, beq_iff_eq] at escaped
        exact escaped.1.1
      have backslash : quoting.marks '\\' = false := quoting.marks_of_not_isScanned (by decide)
      have kept : quoting.step '\\' = quoting := Quoting.step_of_not_isScanned h (by decide)
      simp only [escaped, if_true, placeholdersFrom, backslash, kept, Bool.false_eq_true, if_false]
      split
      · rw [List.length_cons, List.length_cons, ih (h.step c)]
      · exact ih (h.step c) (some c) (start + 1 + 1) (offset + 1)
    · simp only [escaped, Bool.false_eq_true, if_false, placeholdersFrom]
      split
      · rw [List.length_cons, List.length_cons, ih (h.step c)]
      · exact ih (h.step c) (some c) (start + 1) (offset + 1)

/-- Naming the placeholders of a text is one pass over it, with one name for each placeholder. -/
theorem toNamedBinds_eq (sql : String) :
    toNamedBinds sql = (String.ofList (nameFrom none none 0 sql.toList),
      bindNamesFrom 0 (placeholderPositions sql).length) := by
  have regular := Quoting.regular_none
  have count : (placeholdersFrom none 0 (escapeColons none sql.toList)).length =
      (placeholderPositions sql).length :=
    length_placeholdersFrom_escapeColons regular none 0 0 sql.toList
  have filled := nameAt_eq_fillFrom none 0 (escapeColons none sql.toList)
  rw [fillFrom_escapeColons regular] at filled
  rw [toNamedBinds, ← filled, ← count, bindNamesFrom_zero]

end SqlBuilder.Sql
