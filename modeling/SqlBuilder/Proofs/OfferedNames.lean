import SqlBuilder.Proofs.Recovery

/-!
# The names that a database finds

A database takes words behind colons for bind parameters, wherever they stand. In a rewritten text,
whatever the text was, only the placeholders offer it such words: colons of the text are escaped or
shielded. A placeholder offers a word that begins with its name, or none if the text around it hides
its colon. A word that runs on may be the name of a later placeholder, but never of an earlier one.
So if the names of the first few placeholders are found at all, then they are found first and in
their order (`bindNames_toNamedBinds`).
-/

set_option autoImplicit false

namespace SqlBuilder.Sql

/-! ## Names with numbers -/

/-- Reading further digits does not make a number smaller. -/
theorem le_ofDigitChars (cs : List Char) (number : Nat) :
    number ≤ Nat.ofDigitChars 10 cs number := by
  induction cs generalizing number with
  | nil => exact Nat.le_refl number
  | cons c cs ih =>
    rw [Nat.ofDigitChars_cons]
    have further := ih (10 * number + (c.toNat - '0'.toNat))
    omega

/-- A name that begins with another one has the greater number. -/
theorem le_of_bindName_append {first second : Nat} {more : List Char}
    (h : (bindName first).toList ++ more = (bindName second).toList) : first ≤ second := by
  rw [toList_bindName, toList_bindName, List.cons_append, List.cons.injEq] at h
  have value (number : Nat) : Nat.ofDigitChars 10 (Nat.toDigits 10 number) 0 = number :=
    Nat.ofDigitChars_toDigits (by decide) (by decide)
  calc
    first ≤ Nat.ofDigitChars 10 more first := le_ofDigitChars more first
    _ = Nat.ofDigitChars 10 (Nat.toDigits 10 first ++ more) 0 := by
      rw [Nat.ofDigitChars_append, value]
    _ = second := by rw [h.2, value]

/-- Different placeholders have different names. -/
theorem bindName_injective : Function.Injective bindName := by
  intro first second same
  have there : (bindName first).toList ++ [] = (bindName second).toList := by
    rw [List.append_nil, same]
  have back : (bindName second).toList ++ [] = (bindName first).toList := by
    rw [List.append_nil, same]
  exact Nat.le_antisymm (le_of_bindName_append there) (le_of_bindName_append back)

/-- The names that placeholders are numbered with do not repeat. -/
theorem nodup_bindNamesFrom (number count : Nat) : (bindNamesFrom number count).Nodup := by
  have numbers : (List.range' number count).Nodup := List.nodup_range'
  apply List.pairwise_map.2
  apply numbers.imp
  intro first second different same
  exact different (bindName_injective same)

/-- The first few names. -/
theorem take_bindNamesFrom (number count few : Nat) :
    (bindNamesFrom number count).take few = bindNamesFrom number (min few count) := by
  rw [bindNamesFrom, bindNamesFrom, ← List.map_take]
  rcases Nat.le_total few count with less | more
  · rw [Nat.min_eq_left less, List.take_range'_of_length_ge less]
  · rw [Nat.min_eq_right more, List.take_range'_of_length_le more]

/-! ## What placeholders offer -/

/-- The words that so many placeholders, numbered from a number on, offer to a database. -/
inductive Offered : Nat → Nat → List (List Char) → Prop
  /-- There is no placeholder. -/
  | none (number : Nat) : Offered number 0 []
  /-- The first placeholder offers no word. -/
  | hidden {number count : Nat} {words : List (List Char)}
    (later : Offered (number + 1) count words) : Offered number (count + 1) words
  /-- The first placeholder offers a word that begins with its name. -/
  | word {number count : Nat} {words : List (List Char)} (more : List Char)
    (later : Offered (number + 1) count words) :
    Offered number (count + 1) (((bindName number).toList ++ more) :: words)

/-- A database finds a word behind the colon of a name, or none. -/
theorem bindWords_name (last : Option Char) (number : Nat) (cs : List Char) :
    let words := bindWords (lastOr (some ':') (bindName number).toList) cs
    bindWords last (':' :: ((bindName number).toList ++ cs)) = words ∨
      ∃ more, bindWords last (':' :: ((bindName number).toList ++ cs)) =
        ((bindName number).toList ++ more) :: words := by
  intro words
  have name : ∀ c ∈ (bindName number).toList, Text.isWordChar c = true :=
    fun c hc => isWordChar_of_mem_bindName hc
  have later : bindWords (some ':') ((bindName number).toList ++ cs) = words :=
    (bindColons_append (colon_notMem_bindName number) (some ':') 0 cs).2
  rw [bindWords, later, List.takeWhile_append_of_pos name]
  dsimp only
  split
  · split
    · exact .inl rfl
    · exact .inr ⟨_, rfl⟩
  · exact .inl rfl

/-- Of a rewritten text a database finds the words that the placeholders offer, and no others. -/
theorem offered_nameFrom (before last : Option Char)
    (follows : last = before ∨ before = some '?') (quoting : Quoting) (number offset : Nat)
    (cs : List Char) :
    Offered number (placeholdersFrom quoting offset cs).length
      (bindWords last (nameFrom before quoting number cs)) := by
  induction cs generalizing before last quoting number offset with
  | nil => exact .none number
  | cons c cs ih =>
    rw [nameFrom, placeholdersFrom]
    by_cases marked : quoting.marks c = true
    · have placeholder : c = '?' := by
        simp only [Quoting.marks, Bool.and_eq_true, beq_iff_eq] at marked
        exact marked.2
      have later := ih (some c) (lastOr (some ':') (bindName number).toList)
        (.inr (congrArg some placeholder)) (quoting.step c) (number + 1) (offset + 1)
      simp only [marked, if_true, List.length_cons, List.cons_append]
      rcases bindWords_name last number
        (nameFrom (some c) (quoting.step c) (number + 1) cs) with none | ⟨more, found⟩
      · rw [none]
        exact .hidden later
      · rw [found]
        exact .word more later
    · have later := ih (some c) (some c) (.inl rfl) (quoting.step c) number (offset + 1)
      simp only [marked, Bool.false_eq_true, if_false]
      by_cases escaped : (c == ':' && !shieldsColon before && startsWord cs) = true
      · rw [if_pos escaped, (Layout.bindColons_escaped last c _ 0).2]
        exact later
      · rw [if_neg escaped]
        -- A colon that is kept is followed by no word, or is shielded where it stands now.
        have starts : c = ':' → admitsBind last = true →
            startsWord (nameFrom (some c) (quoting.step c) number cs) = false := by
          rintro rfl admits
          rw [startsWord_nameFrom]
          by_contra word
          rw [Bool.not_eq_false] at word
          have shielded : shieldsColon before = true := by simpa [word] using escaped
          rcases follows with rfl | rfl
          · simp only [shieldsColon, Bool.or_eq_true, beq_iff_eq] at shielded
            rcases shielded with rfl | rfl <;> cases admits
          · cases shielded
        rw [(bindColons_cons last _ starts 0).2]
        exact later

namespace Offered

variable {number count : Nat} {words : List (List Char)}

/-- There are at most as many words as placeholders. -/
theorem length_le (h : Offered number count words) : words.length ≤ count := by
  induction h with
  | none => exact Nat.le_refl 0
  | hidden later ih => exact Nat.le_succ_of_le ih
  | word more later ih => exact Nat.succ_le_succ ih

/-- A name among the words is that of one of the placeholders or of a later one. -/
theorem le_of_mem (h : Offered number count words) {k : Nat}
    (found : (bindName k).toList ∈ words) : number ≤ k := by
  induction h with
  | none => cases found
  | hidden later ih => exact Nat.le_of_succ_le (ih found)
  | @word number count words more later ih =>
    rcases List.mem_cons.1 found with same | found
    · exact le_of_bindName_append same.symm
    · exact Nat.le_of_succ_le (ih found)

/-- If the names of the first few placeholders are found, they are found first and in order. -/
theorem take_eq (h : Offered number count words) (few : Nat)
    (found : ∀ name ∈ bindNamesFrom number few, name.toList ∈ words) :
    words.take few = (bindNamesFrom number few).map String.toList := by
  induction h generalizing few with
  | none number =>
    cases few with
    | zero => rfl
    | succ less =>
      rw [bindNamesFrom_succ] at found
      cases found _ List.mem_cons_self
  | @hidden number count words later ih =>
    cases few with
    | zero => rfl
    | succ less =>
      rw [bindNamesFrom_succ] at found
      have early := later.le_of_mem (found _ List.mem_cons_self)
      exact absurd early (Nat.not_succ_le_self number)
  | @word number count words more later ih =>
    cases few with
    | zero => rfl
    | succ less =>
      rw [bindNamesFrom_succ] at found ⊢
      obtain ⟨first, others⟩ := List.forall_mem_cons.1 found
      -- The words behind it are those of later placeholders, so the first one is its own.
      have own : (bindName number).toList ++ more = (bindName number).toList := by
        rcases List.mem_cons.1 first with same | early
        · exact same.symm
        · exact absurd (later.le_of_mem early) (Nat.not_succ_le_self number)
      have behind : ∀ name ∈ bindNamesFrom (number + 1) less, name.toList ∈ words := by
        intro name member
        rcases List.mem_cons.1 (others name member) with same | found
        · rw [own, String.toList_inj] at same
          obtain ⟨k, within, rfl⟩ := List.mem_map.1 member
          have above := (List.mem_range'_1.1 within).1
          have equal := bindName_injective same
          omega
        · exact found
      rw [List.take_succ_cons, List.map_cons, own, ih less behind]

end Offered

/-- Different items are left as they are when repetitions are dropped. -/
theorem eraseDups_of_nodup {α : Type} [DecidableEq α] {items : List α} (h : items.Nodup) :
    items.eraseDups = items := by
  induction items with
  | nil => rfl
  | cons a rest ih =>
    obtain ⟨fresh, later⟩ := List.nodup_cons.1 h
    have kept : rest.filter (fun b => !b == a) = rest := by
      rw [List.filter_eq_self]
      intro b member
      have other : b ≠ a := fun same => fresh (same ▸ member)
      simp [other]
    rw [List.eraseDups_cons, kept, ih later]

/-- There is one name for each placeholder. -/
theorem length_toNamedBinds (sql : String) :
    (toNamedBinds sql).2.length = (placeholderPositions sql).length := by
  rw [toNamedBinds_eq, bindNamesFrom, List.length_map, List.length_range']

/-- What a database finds in a rewritten text when it finds the names of the first few placeholders:
these, in order, and then others; no others if these are all. -/
theorem bindNames_toNamedBinds (sql : String) {few : Nat}
    (found : ∀ name ∈ (toNamedBinds sql).2.take few, name ∈ bindNames (toNamedBinds sql).1) :
    ∃ others, bindNames (toNamedBinds sql).1 = (toNamedBinds sql).2.take few ++ others ∧
      (∀ name ∈ others, name ∉ (toNamedBinds sql).2.take few) ∧
      ((placeholderPositions sql).length ≤ few → others = []) := by
  let count := (placeholderPositions sql).length
  let words := bindWords none (nameFrom none none 0 sql.toList)
  have offered : Offered 0 count words := offered_nameFrom none none (.inl rfl) none 0 0 sql.toList
  have names : (toNamedBinds sql).2 = bindNamesFrom 0 count := by rw [toNamedBinds_eq]
  have finds : bindNames (toNamedBinds sql).1 = (words.map String.ofList).eraseDups := by
    rw [toNamedBinds_eq, bindNames, String.toList_ofList]
  have first : (toNamedBinds sql).2.take few = bindNamesFrom 0 (min few count) := by
    rw [names, take_bindNamesFrom]
  rw [first, finds] at found
  rw [first, finds]
  have taken : words.take (min few count) =
      (bindNamesFrom 0 (min few count)).map String.toList := by
    refine offered.take_eq _ fun name member => ?_
    obtain ⟨word, among, rfl⟩ := List.mem_map.1 (List.mem_eraseDups.1 (found name member))
    rwa [String.toList_ofList]
  have apart : words.map String.ofList = bindNamesFrom 0 (min few count) ++
      (words.drop (min few count)).map String.ofList := by
    conv => lhs; rw [← List.take_append_drop (min few count) words]
    rw [List.map_append, taken, List.map_map]
    simp
  have different := nodup_bindNamesFrom 0 (min few count)
  refine ⟨_, by rw [apart, List.eraseDups_append, eraseDups_of_nodup different], ?_, ?_⟩
  · intro name member
    simpa [List.removeAll] using (List.mem_filter.1 (List.mem_eraseDups.1 member)).2
  · intro enough
    have all : words.drop (min few count) = [] := by
      have bound := offered.length_le
      exact List.drop_eq_nil_of_le (by omega)
    rw [all]
    rfl

end SqlBuilder.Sql
