import SqlBuilder.Proofs.NamedBinding

/-!
# Named binds, character by character

What naming the placeholders of a text puts in place of a character can be read off the text as it
was: a placeholder becomes the bind with its number among the placeholders, a colon that starts a
bind gets a backslash, and everything else stays. `replacement` says so for the character at an
offset. The pass from left to right carries the character before, the literal it is in and a number;
these are what the text up to there determines, so the pass writes the replacements in order.
-/

set_option autoImplicit false

namespace SqlBuilder.Sql

/-- Whether the character at an offset is a colon that a word follows and neither a colon nor a
backslash precedes. -/
def startsBind (cs : List Char) (offset : Nat) : Bool :=
  cs[offset]? == some ':' && cs[offset + 1]?.any Text.isWordChar &&
    !shieldsColon (cs.take offset).getLast?

/-- What a character of a text is replaced by: the placeholder with number `k` by the bind `:pk`, a
colon that starts a bind by an escaped one. -/
def replacement (cs : List Char) (place : Char × Nat) : List Char :=
  match (placeholdersFrom none 0 cs).idxOf? place.2 with
  | some number => ':' :: (bindName number).toList
  | none => if startsBind cs place.2 then ['\\', ':'] else [place.1]

/-! ## Placeholders by offset -/

/-- The offsets of placeholders lie within the text. -/
theorem lt_of_mem_placeholdersFrom {quoting : Quoting} {start offset : Nat} {cs : List Char}
    (h : offset ∈ placeholdersFrom quoting start cs) : offset < start + cs.length := by
  induction cs generalizing quoting start with
  | nil => cases h
  | cons c cs ih =>
    have later (h : offset ∈ placeholdersFrom (quoting.step c) (start + 1) cs) :
        offset < start + (cs.length + 1) := by
      have bound := ih h
      omega
    rw [placeholdersFrom] at h
    split at h
    · rcases List.mem_cons.1 h with rfl | h
      · exact Nat.lt_add_of_pos_right (Nat.succ_pos _)
      · exact later h
    · exact later h

/-- The offsets of placeholders increase. -/
theorem pairwise_placeholdersFrom (quoting : Quoting) (start : Nat) (cs : List Char) :
    (placeholdersFrom quoting start cs).Pairwise (· < ·) := by
  induction cs generalizing quoting start with
  | nil => exact .nil
  | cons c cs ih =>
    rw [placeholdersFrom]
    split
    · exact .cons (fun _ h => Layout.le_of_mem_placeholdersFrom h) (ih _ _)
    · exact ih _ _

/-- The scan for placeholders at the end of some characters. -/
theorem placeholdersFrom_concat (pre : List Char) (c : Char) :
    placeholdersFrom none 0 (pre ++ [c]) = placeholdersFrom none 0 pre ++
      if (Quoting.after none pre).marks c then [pre.length] else [] := by
  rw [placeholdersFrom_append, Nat.zero_add]
  rfl

/-- Whether a character is a placeholder, and which, depends on the text up to there only. -/
theorem idxOf?_placeholdersFrom (pre : List Char) (c : Char) (rest : List Char) :
    (placeholdersFrom none 0 (pre ++ c :: rest)).idxOf? pre.length =
      if (Quoting.after none pre).marks c then some (placeholdersFrom none 0 pre).length
      else none := by
  have before : pre.length ∉ placeholdersFrom none 0 pre := by
    intro found
    have bound := lt_of_mem_placeholdersFrom found
    omega
  have behind (quoting : Quoting) :
      pre.length ∉ placeholdersFrom quoting (pre.length + 1) rest :=
    fun found => absurd (Layout.le_of_mem_placeholdersFrom found) (Nat.not_succ_le_self _)
  rw [placeholdersFrom_append, Nat.zero_add, placeholdersFrom]
  split
  · rw [List.idxOf?, List.findIdx?_append, ← List.idxOf?, List.idxOf?_eq_none_iff.2 before,
      List.idxOf?_cons, if_pos (beq_self_eq_true _)]
    simp
  · rw [List.idxOf?_eq_none_iff, List.mem_append, not_or]
    exact ⟨before, behind _⟩

/-- A placeholder is a question mark outside quotes. -/
theorem mem_placeholderPositions_iff (sql : String) (offset : Nat) :
    offset ∈ placeholderPositions sql ↔
      sql.toList[offset]? = some '?' ∧ Quoting.after none (sql.toList.take offset) = none := by
  rw [placeholderPositions]
  rcases Nat.lt_or_ge offset sql.toList.length with inside | outside
  · have found := idxOf?_placeholdersFrom (sql.toList.take offset) sql.toList[offset]
      (sql.toList.drop (offset + 1))
    rw [List.getElem_cons_drop, List.take_append_drop, List.length_take_of_le inside.le] at found
    rw [← List.isSome_idxOf?, found, List.getElem?_eq_getElem inside, Option.some.injEq]
    simp only [Quoting.marks, Option.isSome_ite, Bool.and_eq_true, Option.isNone_iff_eq_none,
      beq_iff_eq, and_comm]
  · rw [List.getElem?_eq_none outside]
    constructor
    · intro found
      have bound := lt_of_mem_placeholdersFrom found
      omega
    · intro known
      cases known.1

/-! ## One pass -/

/-- Whether a colon starts a bind depends on its neighbours. -/
theorem startsBind_append (pre : List Char) (c : Char) (rest : List Char) :
    startsBind (pre ++ c :: rest) pre.length =
      (c == ':' && !shieldsColon pre.getLast? && startsWord rest) := by
  have next : (pre ++ c :: rest)[pre.length + 1]?.any Text.isWordChar = startsWord rest := by
    rw [List.getElem?_append_right (Nat.le_add_right _ 1), Nat.add_sub_cancel_left]
    cases rest <;> rfl
  rw [startsBind, next, List.take_left, List.getElem?_append_right (Nat.le_refl _), Nat.sub_self]
  simp [Bool.and_right_comm]

/-- The pass writes the replacements of the characters that are left. It is at the offset, in the
literal and at the number that the characters before determine. -/
theorem nameFrom_eq_replacements (pre rest : List Char) :
    nameFrom pre.getLast? (Quoting.after none pre) (placeholdersFrom none 0 pre).length rest =
      (rest.zipIdx pre.length).flatMap (replacement (pre ++ rest)) := by
  -- What was read moves to the front, so that quoting, number and offset are those after it.
  induction rest generalizing pre with
  | nil => rfl
  | cons c rest ih =>
    have later := ih (pre ++ [c])
    rw [List.getLast?_concat, Quoting.after_append, placeholdersFrom_concat, List.length_append,
      List.length_append, List.append_assoc, List.singleton_append] at later
    have step : (Quoting.after none pre).after [c] = (Quoting.after none pre).step c := rfl
    rw [step] at later
    rw [List.zipIdx_cons, List.flatMap_cons, replacement, idxOf?_placeholdersFrom,
      startsBind_append, nameFrom, ← List.length_singleton, ← later]
    by_cases marked : (Quoting.after none pre).marks c = true
    · simp only [marked, if_true, List.length_singleton]
    · by_cases escaped : (c == ':' && !shieldsColon pre.getLast? && startsWord rest) = true
      · have colon : c = ':' := by
          simp only [Bool.and_eq_true, beq_iff_eq] at escaped
          exact escaped.1.1
        simp only [marked, escaped, if_true]
        rw [colon]
        rfl
      · simp only [marked, escaped]
        rfl

/-- Naming the placeholders of a text is one pass over it from left to right, whatever it holds.
Every character is replaced where it stands: the placeholder with number `k` by `:pk`, a colon that
a word follows and neither a colon nor a backslash precedes by an escaped one, any other by itself.
There is one name for each placeholder, and the placeholders are the question marks outside quotes
in increasing order. -/
theorem named_in_one_pass (sql : String) (params : List Value) :
    toNamedBinds sql =
        (String.ofList (nameFrom none none 0 sql.toList),
          (List.range (Compiled.placeholderCount ⟨sql, params⟩)).map bindName) ∧
      nameFrom none none 0 sql.toList =
        sql.toList.zipIdx.flatMap (replacement sql.toList) ∧
      (∀ offset, offset ∈ placeholderPositions sql ↔
        sql.toList[offset]? = some '?' ∧ Quoting.after none (sql.toList.take offset) = none) ∧
      (placeholderPositions sql).Pairwise (· < ·) := by
  refine ⟨?_, nameFrom_eq_replacements [] sql.toList, mem_placeholderPositions_iff sql,
    pairwise_placeholdersFrom none 0 sql.toList⟩
  rw [toNamedBinds_eq, bindNamesFrom_zero]
  rfl

/-- A quoted question mark stays, and of three colons only the quoted one starts a bind. -/
example : toNamedBinds "a::b = ? AND c = ':d?'" = ("a::b = :p0 AND c = '\\:d?'", ["p0"]) := by
  decide +kernel

end SqlBuilder.Sql
