import SqlBuilder.Proofs.Punctuation
import SqlBuilder.Sql.Placeholder

/-!
# Neutral texts

A text is neutral when the scan for placeholders finds none in it and ends outside every quote. The
scan looks at quotes and question marks only, so the neutral texts are a class of texts, and a
neutral text does not disturb the scan of what stands around it.
-/

set_option autoImplicit false

namespace SqlBuilder.Sql

/-- The scan for placeholders finds none in a text and ends outside quotes. -/
def Neutral (s : String) : Prop :=
  placeholderPositions s = [] ∧ Quoting.after none s.toList = none

/-- The scan of placeholders decides whether a text is neutral. -/
instance (s : String) : Decidable (Neutral s) :=
  inferInstanceAs (Decidable (_ ∧ _))

/-- The characters that the scan for placeholders looks at. -/
def isScanned (c : Char) : Bool :=
  isQuote c || c == '?'

/-! ## The scan -/

/-- A scan that starts later finds the same placeholders, later. -/
theorem placeholdersFrom_add (quoting : Quoting) (offset start : Nat) (cs : List Char) :
    placeholdersFrom quoting (offset + start) cs =
      (placeholdersFrom quoting start cs).map (offset + ·) := by
  induction cs generalizing quoting start with
  | nil => rfl
  | cons c cs ih =>
    simp only [placeholdersFrom, Nat.add_assoc, ih]
    split <;> rfl

/-- A scan finds no placeholder wherever it starts. -/
theorem placeholdersFrom_eq_nil {quoting : Quoting} {cs : List Char}
    (h : placeholdersFrom quoting 0 cs = []) (offset : Nat) :
    placeholdersFrom quoting offset cs = [] := by
  have shifted := placeholdersFrom_add quoting offset 0 cs
  rwa [h] at shifted

/-- Texts in a row are scanned one after another. -/
theorem Quoting.after_append (quoting : Quoting) (xs ys : List Char) :
    quoting.after (xs ++ ys) = (quoting.after xs).after ys :=
  List.foldl_append

/-- A literal is enclosed in quotes. -/
def Quoting.Regular (quoting : Quoting) : Prop :=
  ∀ quote ∈ quoting, isQuote quote = true

/-- A scan that is in no literal or in one between quotes stays so. -/
theorem Quoting.Regular.step {quoting : Quoting} (h : quoting.Regular) (c : Char) :
    (quoting.step c).Regular := by
  intro quote hq
  cases quoting with
  | none =>
    by_cases hc : isQuote c = true
    · simp only [Quoting.step, hc, if_true, Option.mem_def, Option.some.injEq] at hq
      exact hq ▸ hc
    · simp only [Quoting.step, hc, Bool.false_eq_true, if_false] at hq
      cases hq
  | some known =>
    by_cases hc : c = known
    · simp [Quoting.step, hc] at hq
    · simp only [Quoting.step, beq_iff_eq, hc, if_false, Option.mem_def, Option.some.injEq] at hq
      exact h quote (by rw [hq]; rfl)

/-- A character that is not scanned does not change where the scan is. -/
theorem Quoting.step_of_not_isScanned {quoting : Quoting} (h : quoting.Regular) {c : Char}
    (hc : isScanned c = false) : quoting.step c = quoting := by
  have unquoted : isQuote c = false := (Bool.or_eq_false_iff.1 hc).1
  cases quoting with
  | none => simp [Quoting.step, unquoted]
  | some known =>
    have different : c ≠ known := by
      rintro rfl
      rw [h c rfl] at unquoted
      cases unquoted
    simp [Quoting.step, different]

/-- A character that is not scanned is no placeholder. -/
theorem Quoting.marks_of_not_isScanned (quoting : Quoting) {c : Char}
    (hc : isScanned c = false) : quoting.marks c = false := by
  rw [Quoting.marks, (Bool.or_eq_false_iff.1 hc).2, Bool.and_false]

/-- Where a scan ends depends on the scanned characters only. -/
theorem Quoting.after_filter {quoting : Quoting} (h : quoting.Regular) (cs : List Char) :
    quoting.after (cs.filter isScanned) = quoting.after cs := by
  induction cs generalizing quoting with
  | nil => rfl
  | cons c cs ih =>
    by_cases hc : isScanned c = true
    · rw [List.filter_cons_of_pos hc]
      exact ih (h.step c)
    · have skipped : isScanned c = false := Bool.eq_false_iff.2 hc
      rw [List.filter_cons_of_neg hc, ih h, Quoting.after, Quoting.after, List.foldl_cons,
        Quoting.step_of_not_isScanned h skipped]

/-- Whether a scan finds a placeholder depends on the scanned characters only. -/
theorem placeholdersFrom_filter_eq_nil_iff {quoting : Quoting} (h : quoting.Regular)
    (start offset : Nat) (cs : List Char) :
    placeholdersFrom quoting start (cs.filter isScanned) = [] ↔
      placeholdersFrom quoting offset cs = [] := by
  -- Offsets differ between the two scans, but whether a place is marked does not depend on them.
  induction cs generalizing quoting start offset with
  | nil => simp [placeholdersFrom]
  | cons c cs ih =>
    by_cases hc : isScanned c = true
    · rw [List.filter_cons_of_pos hc, placeholdersFrom, placeholdersFrom]
      split
      · simp
      · exact ih (h.step c) (start + 1) (offset + 1)
    · have skipped : isScanned c = false := Bool.eq_false_iff.2 hc
      rw [List.filter_cons_of_neg hc, placeholdersFrom,
        Quoting.marks_of_not_isScanned quoting skipped, Quoting.step_of_not_isScanned h skipped]
      exact ih h start (offset + 1)

/-! ## Neutral texts -/

/-- Nothing is left open at the start of a text. -/
theorem Quoting.regular_none : Quoting.Regular none :=
  fun _ h => by cases h

/-- Texts with the same scanned characters are neutral together. -/
theorem Neutral.congr {s t : String}
    (same : s.toList.filter isScanned = t.toList.filter isScanned) (h : Neutral s) :
    Neutral t := by
  obtain ⟨none_found, closed⟩ := h
  constructor
  · rw [placeholderPositions, ← placeholdersFrom_filter_eq_nil_iff Quoting.regular_none 0 0, ← same,
      placeholdersFrom_filter_eq_nil_iff Quoting.regular_none 0 0]
    exact none_found
  · rw [← Quoting.after_filter Quoting.regular_none, ← same,
      Quoting.after_filter Quoting.regular_none]
    exact closed

/-- Neutral texts in a row are neutral. -/
theorem Neutral.append {s t : String} (hs : Neutral s) (ht : Neutral t) : Neutral (s ++ t) := by
  constructor
  · rw [placeholderPositions, String.toList_append, placeholdersFrom_append, hs.2]
    have later := placeholdersFrom_eq_nil ht.1 (0 + s.toList.length)
    rw [later, List.append_nil]
    exact hs.1
  · rw [String.toList_append, Quoting.after_append, hs.2, ht.2]

/-- The class of neutral texts. -/
def neutralTexts : TextClass where
  isMark := isScanned
  Holds := Neutral
  mem_punctuation c hc := by
    simp only [isScanned, isQuote, Bool.or_eq_true, beq_iff_eq] at hc
    rcases hc with (rfl | rfl) | rfl <;> decide
  isMark_quote := by decide
  holds_empty := by decide
  holds_congr same h := h.congr same
  holds_append hs ht := hs.append ht
  holds_bracketed hs := ((show Neutral "(" by decide).append hs).append (by decide)

end SqlBuilder.Sql
