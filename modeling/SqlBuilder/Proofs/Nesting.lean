import SqlBuilder.Proofs.Balance
import SqlBuilder.Statement.Assembly

/-!
# Texts with parts in brackets

A `Nesting` is a text put together from other texts, with some parts of it in brackets. If these
texts are balanced and the parts are not empty, the nesting is balanced as a whole, and each part is
enclosed by its brackets, at any depth.
-/

set_option autoImplicit false

namespace SqlBuilder

/-- A text with some parts in brackets. -/
inductive Nesting where
  /-- A text. -/
  | plain (text : String)
  /-- A part in brackets. -/
  | brackets (inner : Nesting)
  /-- Two texts in a row. -/
  | append (first second : Nesting)
  deriving DecidableEq

namespace Nesting

/-- Nestings one after another. -/
instance : Append Nesting :=
  ⟨append⟩

/-- The text. -/
def text : Nesting → String
  | plain text => text
  | brackets inner => "(" ++ inner.text ++ ")"
  | append first second => first.text ++ second.text

/-- The parts in brackets, at any depth. -/
def pieces : Nesting → List Piece
  | plain _ => []
  | brackets inner => ⟨"", inner.text, ""⟩ :: inner.pieces.map (Piece.within "(" ")")
  | append first second =>
    first.pieces.map (Piece.within "" second.text) ++
      second.pieces.map (Piece.within first.text "")

/-- The texts that a nesting is put together from are balanced, and no part in brackets is empty. -/
def Regular : Nesting → Prop
  | plain text => Balanced text
  | brackets inner => inner.Regular ∧ inner.text ≠ ""
  | append first second => first.Regular ∧ second.Regular

/-- A nesting after some words, or nothing for an empty one. -/
def after (words : String) (n : Nesting) : Nesting :=
  if n.text.isEmpty then plain "" else plain words ++ n

/-- The texts in brackets. -/
def inners (n : Nesting) : List String :=
  n.pieces.map Piece.inner

/-- A text is that of a nesting and balanced; the parts in brackets are enclosed, and some given
texts are among them. -/
structure Bracketed (n : Nesting) (whole : String) (parts : String → Prop) : Prop where
  /-- The text. -/
  text : n.text = whole
  /-- The text is balanced. -/
  balanced : Balanced whole
  /-- The parts are enclosed. -/
  enclosed : ∀ p ∈ n.pieces, p.Enclosed whole
  /-- The given texts are parts. -/
  complete : ∀ part, parts part → ∃ p ∈ n.pieces, p.inner = part

variable {n m : Nesting}

/-- The text of a nesting in brackets. -/
@[simp] theorem text_brackets (n : Nesting) : (brackets n).text = "(" ++ n.text ++ ")" := rfl

/-- The text of nestings one after another. -/
@[simp] theorem text_append (n m : Nesting) : (n ++ m).text = n.text ++ m.text := rfl

/-- A nesting in brackets has itself in brackets, and what it has. -/
@[simp] theorem inners_brackets (n : Nesting) : (brackets n).inners = n.text :: n.inners := by
  simp [inners, pieces, Piece.within, Function.comp_def]

/-- Nestings one after another have in brackets what each of them has. -/
@[simp] theorem inners_append (n m : Nesting) : (n ++ m).inners = n.inners ++ m.inners := by
  have pieces_append : (n ++ m).pieces = n.pieces.map (Piece.within "" m.text) ++
      m.pieces.map (Piece.within n.text "") := rfl
  simp [inners, pieces_append, Piece.within, Function.comp_def]

/-- What has something in brackets is not empty. -/
theorem inners_eq_nil (h : n.text = "") : n.inners = [] := by
  induction n with
  | plain text => rfl
  | brackets inner ih =>
    have opened := (String.append_eq_empty_iff.1 (String.append_eq_empty_iff.1 h).1).1
    exact absurd opened (by decide)
  | append first second ihFirst ihSecond =>
    obtain ⟨none, none'⟩ := String.append_eq_empty_iff.1 h
    refine (inners_append first second).trans ?_
    rw [ihFirst none, ihSecond none', List.append_nil]

/-- The text of a regular nesting is balanced. -/
theorem Regular.balanced (h : n.Regular) : Balanced n.text := by
  induction n with
  | plain text => exact h
  | brackets inner ih => exact (ih h.1).bracketed
  | append first second ihFirst ihSecond => exact (ihFirst h.1).append (ihSecond h.2)

/-- The parts of a nesting of balanced texts are enclosed. -/
theorem Regular.enclosed (h : n.Regular) : ∀ p ∈ n.pieces, p.Enclosed n.text := by
  induction n with
  | plain text => exact fun p hp => absurd hp List.not_mem_nil
  | brackets inner ih =>
    intro p hp
    have opens : outside.after "(".toList = some ⟨none, 1⟩ := rfl
    rcases List.mem_cons.1 hp with rfl | deeper
    · exact Piece.enclosed_alone h.1.balanced h.2
    · obtain ⟨q, hq, rfl⟩ := List.mem_map.1 deeper
      exact (ih h.1 q hq).within opens ")"
  | append first second ihFirst ihSecond =>
    intro p hp
    -- The first part stands at the start, and the second behind a text that is balanced.
    have start : outside.after "".toList = some ⟨none, 0⟩ := rfl
    rcases List.mem_append.1 hp with early | late
    · obtain ⟨q, hq, rfl⟩ := List.mem_map.1 early
      have kept := (ihFirst h.1 q hq).within start second.text
      rwa [String.empty_append] at kept
    · obtain ⟨q, hq, rfl⟩ := List.mem_map.1 late
      have kept := (ihSecond h.2 q hq).within h.1.balanced ""
      rwa [String.append_empty] at kept

/-! ## Nestings of a text -/

/-- A nesting has a text, is put together from balanced texts, and has some texts in brackets. -/
structure Shows (n : Nesting) (whole : String) (parts : String → Prop) : Prop where
  /-- The text. -/
  text : n.text = whole
  /-- What it is put together from. -/
  regular : n.Regular
  /-- The texts in brackets. -/
  parts : ∀ part, parts part → part ∈ n.inners

variable {s t : String} {P R : String → Prop}

/-- A balanced text without brackets around parts of it. -/
theorem shows_plain (h : Balanced s) : (plain s).Shows s fun _ => False :=
  ⟨rfl, h, fun _ none => none.elim⟩

/-- Fewer texts in brackets. -/
theorem Shows.mono (h : n.Shows s P) (fewer : ∀ part, R part → P part) : n.Shows s R :=
  ⟨h.text, h.regular, fun part member => h.parts part (fewer part member)⟩

/-- Two texts in a row. -/
theorem Shows.append (h : n.Shows s P) (h' : m.Shows t R) :
    (n ++ m).Shows (s ++ t) fun part => P part ∨ R part := by
  refine ⟨?_, ⟨h.regular, h'.regular⟩, fun part member => ?_⟩
  · rw [text_append, h.text, h'.text]
  · rw [inners_append]
    exact List.mem_append.2 (member.imp (h.parts part) (h'.parts part))

/-- A text in brackets. -/
theorem Shows.brackets (h : n.Shows s P) (filled : s ≠ "") :
    (brackets n).Shows ("(" ++ s ++ ")") fun part => part = s ∨ P part := by
  refine ⟨?_, ⟨h.regular, h.text.symm ▸ filled⟩, fun part member => ?_⟩
  · rw [text_brackets, h.text]
  · rw [inners_brackets, h.text]
    exact List.mem_cons.2 (member.imp id (h.parts part))

/-- A text after some words. -/
theorem Shows.after (h : n.Shows s P) {words : String} (balanced : Balanced words) :
    (n.after words).Shows (unlessEmpty words s) P := by
  unfold Nesting.after unlessEmpty
  rw [h.text]
  split
  · rename_i empty
    refine ⟨rfl, (by decide : Balanced ""), fun part member => ?_⟩
    have none := inners_eq_nil (h.text.trans (String.isEmpty_iff.1 empty))
    exact absurd (none ▸ h.parts part member) List.not_mem_nil
  · exact ((shows_plain balanced).append h).mono fun part => .inr

/-- What is shown by a nesting is enclosed in its text. -/
theorem Shows.bracketed (h : n.Shows s P) : n.Bracketed s P where
  text := h.text
  balanced := h.text ▸ h.regular.balanced
  enclosed := h.text ▸ h.regular.enclosed
  complete part member := List.mem_map.1 (h.parts part member)

end Nesting

end SqlBuilder
