import SqlBuilder.Condition.Request

/-!
# What a resolved condition looks like

Every way to make a condition checks its fields and then builds one constructor. The lemmas here
read a made condition backwards: which constructor it is, and which checks its fields have passed.
-/

set_option autoImplicit false

namespace SqlBuilder

/-- A field that passed was given and passed its check, or it took its default. -/
theorem checkField_eq_ok {α : Type} {path : List String} {default : Option α}
    {check : Value → Except Fault α} {given : Option Value} {a : α}
    (h : checkField path default check given = .ok a) :
    (∃ v, given = some v ∧ check v = .ok a) ∨ given = none ∧ default = some a := by
  unfold checkField at h
  split at h
  · rename_i v
    refine .inl ⟨v, rfl, ?_⟩
    cases checked : check v with
    | error fault =>
      rw [checked] at h
      cases h
    | ok b =>
      rw [checked] at h
      obtain rfl : b = a := Except.ok.inj h
      rfl
  · split at h
    · rename_i b
      exact .inr ⟨rfl, congrArg some (Except.ok.inj h)⟩
    · cases h

/-- A field that was given and passed has passed its check. -/
theorem check_of_checkField {α : Type} {path : List String} {default : Option α}
    {check : Value → Except Fault α} {v : Value} {a : α}
    (h : checkField path default check (some v) = .ok a) : check v = .ok a := by
  rcases checkField_eq_ok h with ⟨w, given, checked⟩ | ⟨given, -⟩
  · rwa [Option.some.inj given]
  · cases given

/-- What a function makes of an outcome is a result when the outcome is one. -/
theorem of_map_eq_ok {α β ε : Type} {x : Except ε α} {f : α → β} {b : β}
    (h : x.map f = .ok b) : ∃ a, x = .ok a ∧ f a = b := by
  cases x with
  | error e => cases h
  | ok a => exact ⟨a, rfl, Except.ok.inj h⟩

/-- Two steps have a result when both do. -/
theorem of_bind_eq_ok {α β ε : Type} {x : Except ε α} {f : α → Except ε β} {b : β}
    (h : x.bind f = .ok b) : ∃ a, x = .ok a ∧ f a = .ok b := by
  cases x with
  | error e => cases h
  | ok a => exact ⟨a, rfl, h⟩

/-- An outcome whose error is reworded is the same when it is no error. -/
theorem of_mapError_eq_ok {α ε ε' : Type} {f : ε → ε'} {x : Except ε α} {a : α}
    (h : x.mapError f = .ok a) : x = .ok a := by
  cases x with
  | error e => cases h
  | ok b => exact congrArg Except.ok (Except.ok.inj h)

/-- A checked value that is refused for further issues was accepted without them. -/
theorem of_refuseFor_eq_ok {α : Type} {issues : List Issue} {x : Checked α} {a : α}
    (h : x.refuseFor issues = .ok a) : x = .ok a := by
  cases x with
  | error found => cases h
  | ok b =>
    rw [Checked.refuseFor] at h
    split at h
    · exact h
    · cases h

namespace Condition

/-- A null test has the column and the operator that it was asked for. -/
theorem of_ofNullTest {connector column : Value} {operator : Option Value} {c : Condition}
    (h : ofNullTest connector column operator = .ok c) :
    ∃ k col op, c = .nullTest k col op ∧ checkText column = .ok col ∧
      ((∃ v, operator = some v ∧ checkText v = .ok op) ∨ operator = none ∧ op = "IS NULL") := by
  have made := of_mapError_eq_ok h
  obtain ⟨_, op, rest, checked, rfl⟩ := Checked.ap_eq_ok_iff.1 made
  obtain ⟨_, col, rest, known, h₂⟩ := Checked.ap_eq_ok_iff.1 rest
  obtain ⟨_, k, rest, -, h₁⟩ := Checked.ap_eq_ok_iff.1 rest
  obtain rfl := Except.ok.inj rest
  subst h₁ h₂
  refine ⟨k, col, op, rfl, check_of_checkField known, ?_⟩
  rcases checkField_eq_ok checked with given | ⟨none, default⟩
  · exact .inl given
  · exact .inr ⟨none, (Option.some.inj default).symm⟩

/-- A test against a plain value is a membership test or a comparison. -/
theorem of_ofTest {clause : Option String} {connector column operator value : Value}
    {c : Condition} (h : ofTest clause connector column operator value = .ok c) :
    (∃ k col op items, c = .membership k col op items ∧ items ≠ [] ∧ checkText column = .ok col ∧
      checkText (operator.orElse (.text "IN")) = .ok op) ∨
    ∃ k col op, c = .simple k col op value ∧ checkText column = .ok col ∧
      checkText (operator.orElse (.text "=")) = .ok op := by
  unfold ofTest at h
  dsimp only at h
  split at h
  · split at h
    · cases h
    · cases h
    · rename_i items some _
      have made := of_mapError_eq_ok h
      obtain ⟨_, values, rest, listed, rfl⟩ := Checked.ap_eq_ok_iff.1 made
      obtain ⟨_, op, rest, checked, h₃⟩ := Checked.ap_eq_ok_iff.1 rest
      obtain ⟨_, col, rest, known, h₂⟩ := Checked.ap_eq_ok_iff.1 rest
      obtain ⟨_, k, rest, -, h₁⟩ := Checked.ap_eq_ok_iff.1 rest
      obtain rfl := Except.ok.inj rest
      subst h₁ h₂ h₃
      refine .inl ⟨k, col, op, values, rfl, ?_, check_of_checkField known,
        check_of_checkField checked⟩
      rintro rfl
      have none := check_of_checkField listed
      cases items <;> simp [checkSomeItems, checkItems] at none
  · have made := of_mapError_eq_ok h
    obtain ⟨_, v, rest, given, rfl⟩ := Checked.ap_eq_ok_iff.1 made
    obtain ⟨_, op, rest, checked, h₃⟩ := Checked.ap_eq_ok_iff.1 rest
    obtain ⟨_, col, rest, known, h₂⟩ := Checked.ap_eq_ok_iff.1 rest
    obtain ⟨_, k, rest, -, h₁⟩ := Checked.ap_eq_ok_iff.1 rest
    obtain rfl := Except.ok.inj rest
    obtain rfl := Except.ok.inj given
    subst h₁ h₂ h₃
    exact .inr ⟨k, col, op, rfl, check_of_checkField known, check_of_checkField checked⟩

/-- A test against the rows of a statement holds its text and values. -/
theorem of_ofSubquery {connector column operator : Value} {compiled : Sql.Compiled} {c : Condition}
    (h : ofSubquery connector column operator compiled = .ok c) :
    ∃ k col op, c = .subquery k col op compiled.sql compiled.params ∧
      checkText column = .ok col ∧ checkText (operator.orElse (.text "IN")) = .ok op := by
  have made := of_mapError_eq_ok h
  obtain ⟨_, bindings, rest, listed, rfl⟩ := Checked.ap_eq_ok_iff.1 made
  obtain ⟨_, sql, rest, text, h₄⟩ := Checked.ap_eq_ok_iff.1 rest
  obtain ⟨_, op, rest, checked, h₃⟩ := Checked.ap_eq_ok_iff.1 rest
  obtain ⟨_, col, rest, known, h₂⟩ := Checked.ap_eq_ok_iff.1 rest
  obtain ⟨_, k, rest, -, h₁⟩ := Checked.ap_eq_ok_iff.1 rest
  obtain rfl := Except.ok.inj rest
  have shown : checkText (.text compiled.sql) = .ok sql := check_of_checkField text
  have bound : checkItems (.series .tuple compiled.params) = .ok bindings :=
    check_of_checkField listed
  obtain rfl := Except.ok.inj shown
  obtain rfl := Except.ok.inj bound
  subst h₁ h₂ h₃ h₄
  exact ⟨k, col, op, rfl, check_of_checkField known, check_of_checkField checked⟩

/-- A group holds its clause in brackets. -/
theorem of_ofGroup {connector : Value} {empty body : String} {bindings : List Value}
    {c : Condition} (h : ofGroup connector empty body bindings = .ok c) :
    ∃ k, c = .group k (groupText body empty) bindings := by
  have made := of_mapError_eq_ok h
  obtain ⟨_, bound, rest, listed, rfl⟩ := Checked.ap_eq_ok_iff.1 made
  obtain ⟨_, sql, rest, text, h₂⟩ := Checked.ap_eq_ok_iff.1 rest
  obtain ⟨_, k, rest, -, h₁⟩ := Checked.ap_eq_ok_iff.1 rest
  obtain rfl := Except.ok.inj rest
  have shown : checkText (.text (groupText body empty)) = .ok sql := check_of_checkField text
  have kept : checkItems (.series .tuple bindings) = .ok bound := check_of_checkField listed
  obtain rfl := Except.ok.inj shown
  obtain rfl := Except.ok.inj kept
  subst h₁ h₂
  exact ⟨k, rfl⟩

end Condition

end SqlBuilder
