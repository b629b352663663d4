import SqlBuilder.Proofs.Neutral

/-!
# Balanced texts and brackets in them

A text is read from left to right with the literal and the number of open brackets at each place;
brackets inside quotes do not count. A text is balanced if no bracket closes what is not open and
nothing is open at its end. A piece of a text is enclosed if the brackets around it match each
other, so that everything in the piece stands deeper than the text around it.
-/

set_option autoImplicit false

namespace SqlBuilder

open Sql (Quoting isQuote)

/-! ## Levels -/

/-- Where a place in a text lies. -/
structure Level where
  /-- The literal that it lies in, if any. -/
  quoting : Quoting
  /-- The number of open brackets. -/
  depth : Nat
  deriving DecidableEq

/-- The start of a text: outside quotes and brackets. -/
def outside : Level :=
  ⟨none, 0⟩

namespace Level

/-- The level after a character, unless it closes a bracket where none is open. -/
def step (l : Level) (c : Char) : Option Level :=
  match l.quoting with
  | some quote => some ⟨Quoting.step (some quote) c, l.depth⟩
  | none =>
    if c = '(' then some ⟨none, l.depth + 1⟩
    else if c = ')' then
      match l.depth with
      | 0 => none
      | depth + 1 => some ⟨none, depth⟩
    else some ⟨Quoting.step none c, l.depth⟩

/-- The level after some characters, unless one of them closes a bracket where none is open. -/
def after : Level → List Char → Option Level
  | l, [] => some l
  | l, c :: cs => (l.step c).bind fun next => next.after cs

/-- A level inside further brackets. -/
def raise (k : Nat) (l : Level) : Level :=
  ⟨l.quoting, l.depth + k⟩

variable {l m : Level} {c : Char} {cs : List Char}

/-- Two texts in a row lead from a level to the one that the second leads to from the level after
the first. -/
theorem after_append (l : Level) (xs ys : List Char) :
    l.after (xs ++ ys) = (l.after xs).bind fun next => next.after ys := by
  induction xs generalizing l with
  | nil => rfl
  | cons x xs ih =>
    rw [List.cons_append, after, after]
    cases l.step x with
    | none => rfl
    | some next => exact ih next

/-- Inside further brackets a character does the same. -/
theorem step_raise (k : Nat) (h : l.step c = some m) : (l.raise k).step c = some (m.raise k) := by
  obtain ⟨quoting, depth⟩ := l
  cases quoting with
  | some quote =>
    obtain rfl := Option.some.inj h
    rfl
  | none =>
    unfold step at h ⊢
    dsimp only [raise] at h ⊢
    split at h
    · rename_i opens
      obtain rfl := Option.some.inj h
      rw [if_pos opens]
      exact congrArg (fun depth => some (Level.mk none depth)) (Nat.add_right_comm depth k 1)
    · rename_i noOpening
      rw [if_neg noOpening]
      split at h
      · rename_i closes
        rw [if_pos closes]
        cases depth with
        | zero => cases h
        | succ depth =>
          obtain rfl := Option.some.inj h
          rw [Nat.add_right_comm depth 1 k]
      · rename_i noClosing
        obtain rfl := Option.some.inj h
        rw [if_neg noClosing]

/-- Inside further brackets characters do the same. -/
theorem after_raise (k : Nat) (h : l.after cs = some m) :
    (l.raise k).after cs = some (m.raise k) := by
  induction cs generalizing l with
  | nil => exact congrArg (fun l => some (raise k l)) (Option.some.inj h)
  | cons c cs ih =>
    obtain ⟨next, stepped, rest⟩ := Option.bind_eq_some_iff.1 h
    rw [after, step_raise k stepped]
    exact ih rest

/-- Whoever can be read on has been read so far. -/
theorem exists_after_of_append {ys : List Char} (h : l.after (cs ++ ys) = some m) :
    ∃ between, l.after cs = some between ∧ between.after ys = some m := by
  rw [after_append] at h
  exact Option.bind_eq_some_iff.1 h

/-! ## The characters that matter -/

/-- The characters that change a level. -/
def isMark (c : Char) : Bool :=
  isQuote c || c == '(' || c == ')'

/-- Other characters keep a level. -/
theorem step_of_not_isMark (regular : l.quoting.Regular) (hc : isMark c = false) :
    l.step c = some l := by
  obtain ⟨quoting, depth⟩ := l
  simp only [isMark, Bool.or_eq_false_iff, beq_eq_false_iff_ne] at hc
  obtain ⟨⟨unquoted, noOpening⟩, noClosing⟩ := hc
  cases quoting with
  | none => simp [step, Quoting.step, unquoted, noOpening, noClosing]
  | some quote =>
    have ne : c ≠ quote := by
      rintro rfl
      have enclosing := regular c rfl
      rw [unquoted] at enclosing
      cases enclosing
    simp [step, Quoting.step, ne]

/-- A level in no literal or in one between quotes stays so. -/
theorem regular_of_step (regular : l.quoting.Regular) (h : l.step c = some m) :
    m.quoting.Regular := by
  have stepped := regular.step c
  obtain ⟨quoting, depth⟩ := l
  cases quoting with
  | some quote =>
    obtain rfl := Option.some.inj h
    exact stepped
  | none =>
    unfold step at h
    dsimp only at h
    split at h
    · obtain rfl := Option.some.inj h
      exact Quoting.regular_none
    · split at h
      · cases depth with
        | zero => cases h
        | succ depth =>
          obtain rfl := Option.some.inj h
          exact Quoting.regular_none
      · obtain rfl := Option.some.inj h
        exact stepped

/-- The level after some characters depends only on those that matter. -/
theorem after_filter (regular : l.quoting.Regular) (cs : List Char) :
    l.after (cs.filter isMark) = l.after cs := by
  induction cs generalizing l with
  | nil => rfl
  | cons c cs ih =>
    by_cases hc : isMark c = true
    · rw [List.filter_cons_of_pos hc, after, after]
      cases stepped : l.step c with
      | none => rfl
      | some next => exact ih (regular_of_step regular stepped)
    · have skipped := step_of_not_isMark regular (Bool.eq_false_iff.2 hc)
      rw [List.filter_cons_of_neg hc, after, skipped]
      exact ih regular

end Level

/-! ## Balanced texts -/

/-- Every bracket of a text outside quotes is closed, none closes what is not open, and the text
ends outside quotes. -/
def Balanced (s : String) : Prop :=
  outside.after s.toList = some outside

/-- A scan decides whether a text is balanced. -/
instance (s : String) : Decidable (Balanced s) :=
  inferInstanceAs (Decidable (_ = _))

namespace Balanced

variable {s t : String}

/-- Balanced texts in a row are balanced. -/
theorem append (hs : Balanced s) (ht : Balanced t) : Balanced (s ++ t) := by
  rw [Balanced, String.toList_append, Level.after_append, hs]
  exact ht

/-- What comes after a balanced text is balanced if the whole is. -/
theorem of_append (hs : Balanced s) (h : Balanced (s ++ t)) : Balanced t := by
  rw [Balanced, String.toList_append, Level.after_append, hs] at h
  exact h

/-- Inside brackets a balanced text leads from a level back to it. -/
theorem after_raise (h : Balanced s) (k : Nat) :
    (Level.mk none k).after s.toList = some ⟨none, k⟩ := by
  have raised := Level.after_raise k h
  rwa [outside, Level.raise, Nat.zero_add] at raised

/-- A balanced text in brackets is balanced. -/
theorem bracketed (h : Balanced s) : Balanced ("(" ++ s ++ ")") := by
  have opened : outside.after "(".toList = some ⟨none, 1⟩ := rfl
  rw [Balanced, String.toList_append, String.toList_append, Level.after_append, Level.after_append,
    opened, Option.bind_some, h.after_raise 1]
  rfl

end Balanced

/-- The class of balanced texts. -/
def balancedTexts : TextClass where
  isMark := Level.isMark
  Holds := Balanced
  mem_punctuation c hc := by
    simp only [Level.isMark, isQuote, Bool.or_eq_true, beq_iff_eq] at hc
    rcases hc with ((rfl | rfl) | rfl) | rfl <;> decide
  isMark_quote := by decide
  holds_empty := by decide
  holds_congr same h := by
    rw [Balanced, ← Level.after_filter Quoting.regular_none] at h ⊢
    exact same ▸ h
  holds_append hs ht := hs.append ht
  holds_bracketed hs := hs.bracketed

/-! ## Pieces in brackets -/

/-- A piece of a text in brackets, with the text before and after the brackets. -/
structure Piece where
  /-- The text before the opening bracket. -/
  before : String
  /-- The text between the brackets. -/
  inner : String
  /-- The text after the closing bracket. -/
  after : String
  deriving DecidableEq

namespace Piece

/-- A piece in a text with more text before and after it. -/
def within (left right : String) (p : Piece) : Piece :=
  ⟨left ++ p.before, p.inner, p.after ++ right⟩

/-- A piece is not empty and enclosed in a text by a pair of brackets that match each other: the
brackets stand outside quotes at the same depth, and everything between them lies deeper. -/
structure Enclosed (whole : String) (p : Piece) : Prop where
  /-- The piece is a part of the text between brackets. -/
  eq : whole = p.before ++ "(" ++ p.inner ++ ")" ++ p.after
  /-- There is something between the brackets. -/
  filled : p.inner ≠ ""
  /-- The brackets match. -/
  matched : ∃ depth,
    outside.after p.before.toList = some ⟨none, depth⟩ ∧
      outside.after (p.before ++ "(" ++ p.inner ++ ")").toList = some ⟨none, depth⟩ ∧
      ∀ read, read <+: p.inner.toList →
        ∃ l, outside.after ((p.before ++ "(").toList ++ read) = some l ∧ depth < l.depth

/-- A piece with balanced text around and between its brackets is enclosed. -/
theorem enclosed_of_balanced {p : Piece} {depth : Nat}
    (before : outside.after p.before.toList = some ⟨none, depth⟩) (inner : Balanced p.inner)
    (filled : p.inner ≠ "") : p.Enclosed (p.before ++ "(" ++ p.inner ++ ")" ++ p.after) := by
  have opened : outside.after (p.before ++ "(").toList = some ⟨none, depth + 1⟩ := by
    rw [String.toList_append, Level.after_append, before]
    rfl
  refine ⟨rfl, filled, depth, before, ?_, fun read prefixed => ?_⟩
  · rw [String.toList_append, String.toList_append, Level.after_append, Level.after_append, opened,
      Option.bind_some, inner.after_raise]
    rfl
  · obtain ⟨rest, split⟩ := prefixed
    have whole : outside.after (read ++ rest) = some outside := split ▸ inner
    obtain ⟨between, reached, -⟩ := Level.exists_after_of_append whole
    -- Inside the bracket no prefix closes more than it opens, so it stays inside.
    have raised : (Level.mk none (depth + 1)).after read = some (between.raise (depth + 1)) := by
      have deeper := Level.after_raise (depth + 1) reached
      rwa [outside, Level.raise, Nat.zero_add] at deeper
    refine ⟨between.raise (depth + 1), ?_, ?_⟩
    · rw [Level.after_append, opened]
      exact raised
    · show depth < between.depth + (depth + 1)
      omega

/-- A balanced text alone in brackets is enclosed. -/
theorem enclosed_alone {s : String} (balanced : Balanced s) (filled : s ≠ "") :
    Enclosed ("(" ++ s ++ ")") ⟨"", s, ""⟩ := by
  have start : outside.after "".toList = some ⟨none, 0⟩ := rfl
  have whole : Enclosed ("" ++ "(" ++ s ++ ")" ++ "") ⟨"", s, ""⟩ :=
    @enclosed_of_balanced ⟨"", s, ""⟩ 0 start balanced filled
  rwa [String.append_empty, String.empty_append] at whole

/-- An enclosed piece stays so with more text before it, inside brackets that this text leaves open,
and after it. -/
theorem Enclosed.within {whole : String} {p : Piece} (h : p.Enclosed whole) {left : String}
    {k : Nat} (opens : outside.after left.toList = some ⟨none, k⟩) (right : String) :
    (p.within left right).Enclosed (left ++ whole ++ right) := by
  obtain ⟨depth, before, closed, deeper⟩ := h.matched
  have shift {cs : List Char} {l : Level} (read : outside.after cs = some l) :
      outside.after (left.toList ++ cs) = some (l.raise k) := by
    have raised := Level.after_raise k read
    rw [outside, Level.raise, Nat.zero_add] at raised
    rw [Level.after_append, opens]
    exact raised
  refine ⟨?_, h.filled, depth + k, ?_, ?_, fun read prefixed => ?_⟩
  · rw [Piece.within, h.eq]
    simp only [String.append_assoc]
  · rw [Piece.within, String.toList_append]
    exact shift before
  · have split : (p.within left right).before ++ "(" ++ (p.within left right).inner ++ ")" =
        left ++ (p.before ++ "(" ++ p.inner ++ ")") := by
      simp only [Piece.within, String.append_assoc]
    rw [split, String.toList_append]
    exact shift closed
  · obtain ⟨l, reached, below⟩ := deeper read prefixed
    refine ⟨l.raise k, ?_, Nat.add_lt_add_right below k⟩
    have split : ((p.within left right).before ++ "(").toList ++ read =
        left.toList ++ ((p.before ++ "(").toList ++ read) := by
      simp only [Piece.within, String.toList_append, List.append_assoc]
    rw [split]
    exact shift reached

end Piece

end SqlBuilder
