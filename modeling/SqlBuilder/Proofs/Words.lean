import SqlBuilder.Text.Blank

/-!
# Words between separators

A word is a maximal run without separators. So the words of a list are read off its front: its
separators are dropped, the first word goes up to the next separator, and the other words are those
of what follows.
-/

set_option autoImplicit false

namespace SqlBuilder.Text

section WordsBy

variable {α : Type} {separates : α → Bool} {xs word rest : List α} {later : List (List α)}

/-- A separator in front belongs to no word. -/
theorem wordsBy_cons_of_separates {x : α} (h : separates x = true) (xs : List α) :
    wordsBy separates (x :: xs) = wordsBy separates xs := by
  rw [wordsBy.eq_def]
  exact if_pos h

/-- A run of separators in front belongs to no word. -/
theorem wordsBy_append_of_separates {gap : List α} (h : ∀ x ∈ gap, separates x = true)
    (xs : List α) : wordsBy separates (gap ++ xs) = wordsBy separates xs := by
  induction gap with
  | nil => rfl
  | cons x gap ih =>
    obtain ⟨first, others⟩ := List.forall_mem_cons.1 h
    rw [List.cons_append, wordsBy_cons_of_separates first, ih others]

/-- Any other element begins the first word, which goes on up to the next separator. -/
theorem wordsBy_cons_of_not_separates {x : α} (h : separates x = false) (xs : List α) :
    wordsBy separates (x :: xs) =
      (x :: xs.takeWhile fun y => !separates y) ::
        wordsBy separates (xs.dropWhile fun y => !separates y) := by
  induction xs generalizing x with
  | nil => simp [wordsBy, h]
  | cons y ys ih =>
    rw [wordsBy.eq_def]
    dsimp only
    cases hy : separates y with
    | true => simp [h, hy]
    | false => simp [h, hy, ih hy]

/-- Separators in front belong to no word. -/
theorem wordsBy_dropWhile (xs : List α) :
    wordsBy separates (xs.dropWhile separates) = wordsBy separates xs := by
  induction xs with
  | nil => rfl
  | cons x xs ih =>
    cases h : separates x with
    | true => rw [List.dropWhile_cons_of_pos h, ih, wordsBy_cons_of_separates h]
    | false => rw [List.dropWhile_cons_of_neg (by rw [h]; exact Bool.false_ne_true)]

/-- There are no words exactly when all elements are separators. -/
theorem wordsBy_eq_nil_iff : wordsBy separates xs = [] ↔ ∀ x ∈ xs, separates x = true := by
  induction xs with
  | nil => exact ⟨fun _ => nofun, fun _ => rfl⟩
  | cons x xs ih =>
    cases h : separates x with
    | true =>
      rw [wordsBy_cons_of_separates h, ih, List.forall_mem_cons]
      exact ⟨fun all => ⟨h, all⟩, fun all => all.2⟩
    | false =>
      rw [wordsBy_cons_of_not_separates h]
      refine ⟨nofun, fun all => ?_⟩
      rw [all x List.mem_cons_self] at h
      cases h

/-- A run without separators up to a separator is the first word. -/
theorem wordsBy_append (some : word ≠ []) (solid : ∀ x ∈ word, separates x = false)
    (ends : ∀ x ∈ rest.head?, separates x = true) :
    wordsBy separates (word ++ rest) = word :: wordsBy separates rest := by
  cases word with
  | nil => exact absurd rfl some
  | cons x word =>
    obtain ⟨first, others⟩ := List.forall_mem_cons.1 solid
    have inside : ∀ y ∈ word, (!separates y) = true := fun y hy => by rw [others y hy]; rfl
    have taken : rest.takeWhile (fun y => !separates y) = [] := by
      cases rest with
      | nil => rfl
      | cons y ys => exact List.takeWhile_cons_of_neg (by simp [ends y rfl])
    have dropped : rest.dropWhile (fun y => !separates y) = rest := by
      cases rest with
      | nil => rfl
      | cons y ys => exact List.dropWhile_cons_of_neg (by simp [ends y rfl])
    rw [List.cons_append, wordsBy_cons_of_not_separates first,
      List.takeWhile_append_of_pos inside, List.dropWhile_append_of_pos inside, taken, dropped,
      List.append_nil]

/-- The first word stands in front, after separators, and the other words are those of the rest. -/
theorem of_wordsBy_eq_cons (h : wordsBy separates xs = word :: later) :
    ∃ rest, xs.dropWhile separates = word ++ rest ∧ (∀ x ∈ rest.head?, separates x = true) ∧
      wordsBy separates rest = later := by
  induction xs with
  | nil => cases h
  | cons x xs ih =>
    cases hx : separates x with
    | true =>
      rw [wordsBy_cons_of_separates hx] at h
      rw [List.dropWhile_cons_of_pos hx]
      exact ih h
    | false =>
      rw [wordsBy_cons_of_not_separates hx] at h
      obtain ⟨rfl, rfl⟩ := List.cons.inj h
      -- The rest starts where the first word ends.
      refine ⟨xs.dropWhile fun y => !separates y, ?_, ?_, rfl⟩
      · rw [List.dropWhile_cons_of_neg (by rw [hx]; exact Bool.false_ne_true), List.cons_append,
          List.takeWhile_append_dropWhile]
      · intro y hy
        have stops := List.head?_dropWhile_not (fun y => !separates y) xs
        rw [hy] at stops
        exact Bool.not_eq_eq_eq_not.1 stops

/-- A word stands somewhere in the list. -/
theorem exists_suffix_of_mem_wordsBy (h : word ∈ wordsBy separates xs) :
    ∃ rest, word ++ rest <:+ xs := by
  generalize split : wordsBy separates xs = words at h
  induction words generalizing xs with
  | nil => cases h
  | cons first later ih =>
    obtain ⟨rest, front, -, others⟩ := of_wordsBy_eq_cons split
    have trimmed : first ++ rest <:+ xs := front ▸ List.dropWhile_suffix separates
    rcases List.mem_cons.1 h with rfl | member
    · exact ⟨rest, trimmed⟩
    · obtain ⟨more, within⟩ := ih others member
      exact ⟨more, within.trans ((List.suffix_append first rest).trans trimmed)⟩

end WordsBy

end SqlBuilder.Text
