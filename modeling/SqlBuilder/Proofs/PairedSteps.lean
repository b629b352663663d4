import Mathlib.Data.List.Forall2
import SqlBuilder.Proofs.PairedStatements

/-!
# Steps on paired drivers

Two workspaces on paired drivers correspond when their statements and their iterators do. A step
that goes through the statement or an iterator gives the same answer on both and leaves them
corresponding, so such steps one after another give the same answers.
-/

set_option autoImplicit false

namespace SqlBuilder

/-! ## Lists item by item -/

section Items

variable {α β : Type} {R : α → β → Prop} {xs : List α} {ys : List β}

/-- Related lists have related items in the same places. -/
theorem rel_getElem? (h : List.Forall₂ R xs ys) (index : Nat) :
    Option.Rel R xs[index]? ys[index]? := by
  induction h generalizing index with
  | nil => exact .none
  | cons first _ ih =>
    cases index with
    | zero => exact .some first
    | succ index => exact ih index

/-- Related lists stay related when related items are put in the same place. -/
theorem forall₂_set (h : List.Forall₂ R xs ys) (index : Nat) {a : α} {b : β} (related : R a b) :
    List.Forall₂ R (xs.set index a) (ys.set index b) := by
  induction h generalizing index with
  | nil => exact .nil
  | cons first rest ih =>
    cases index with
    | zero => exact .cons related rest
    | succ index => exact .cons first (ih index)

end Items

/-! ## Steps -/

namespace Step

/-- Whether a step goes through the statement or an iterator, and not to the session directly. -/
def throughStatement : Step → Bool
  | .call _ | .renew | .describe | .morph _ _ | .next _ | .rest _ | .stop _ | .rejected _ => true
  | _ => false

/-- The texts that a step in a workspace interpolates are in a class, and so are the keys of the
data that it uses. -/
def Clean (T : TextClass) {d : Driver} (w : Workspace d) : Step → Prop
  | .call c => c.Clean T w.statement ∧ c.Keyed T w.statement
  | _ => True

end Step

namespace Workspace

/-- The texts that steps one after another interpolate are in a class, and so are the keys of the
data that they use. -/
def Clean (T : TextClass) {d : Driver} : List Step → Workspace d → Prop
  | [], _ => True
  | s :: rest, w => s.Clean T w ∧ Clean T rest (w.step s).2

end Workspace

namespace Pairing

variable {d d' : Driver} (pairing : Pairing d d')

/-- Corresponding workspaces. -/
structure Workspaces (w : Workspace d) (w' : Workspace d') : Prop where
  /-- The statements. -/
  statements : pairing.Statements w.statement w'.statement
  /-- The iterators correspond, number by number. -/
  iterators : List.Forall₂ pairing.Iterators w.iterators w'.iterators

/-- Equal answers that leave corresponding workspaces. -/
structure Stepped (left : Except Error StepAnswer × Workspace d)
    (right : Except Error StepAnswer × Workspace d') : Prop where
  /-- The answers are the same. -/
  answer : left.1 = right.1
  /-- The workspaces afterwards are paired. -/
  workspaces : pairing.Workspaces left.2 right.2

variable {pairing} {w : Workspace d} {w' : Workspace d'}

namespace Workspaces

variable (h : pairing.Workspaces w w')

include h

/-- Paired workspaces log alike. -/
theorem logs : w.logs = w'.logs := by
  unfold Workspace.logs
  rw [h.statements.options]

/-- Paired workspaces are paired when paired sessions are put in. -/
theorem onSession {s : Session d} {s' : Session d'} (sessions : pairing.session s s') :
    pairing.Workspaces (w.onSession s) (w'.onSession s') :=
  ⟨h.statements.onSession sessions, h.iterators⟩

/-- Using paired sessions in the same way is a paired step. -/
theorem withSession {act : Session d → Except Error StepAnswer × Workspace d}
    {act' : Session d' → Except Error StepAnswer × Workspace d'}
    (same : ∀ {s s'}, pairing.session s s' → pairing.Stepped (act s) (act' s')) :
    pairing.Stepped (w.withSession act) (w'.withSession act') := by
  have sessions := h.statements.sessions
  unfold Workspace.withSession
  generalize w.statement.session = session at sessions ⊢
  generalize w'.statement.session = session' at sessions ⊢
  cases sessions with
  | none => exact ⟨rfl, h⟩
  | some related => exact same related

/-- Acting on paired iterators in the same way is a paired step. -/
theorem withIterator (index : Nat)
    {act : RowIterator d → Session d → Except Error StepAnswer × RowIterator d × Session d}
    {act' : RowIterator d' → Session d' → Except Error StepAnswer × RowIterator d' × Session d'}
    (same : ∀ {it it' s s'}, pairing.Iterators it it' → pairing.session s s' →
      pairing.Pulled (act it s) (act' it' s')) :
    pairing.Stepped (w.withIterator index act) (w'.withIterator index act') := by
  have items := rel_getElem? h.iterators index
  unfold Workspace.withIterator
  generalize w.iterators[index]? = item at items ⊢
  generalize w'.iterators[index]? = item' at items ⊢
  cases items with
  | none => exact ⟨rfl, h⟩
  | some related =>
    apply h.withSession
    intro s s' sessions
    obtain ⟨outcome, iterators, sessions⟩ := same related sessions
    have after := h.onSession sessions
    exact ⟨outcome, after.statements, forall₂_set h.iterators index iterators⟩

/-- Making an iterator is a paired step. -/
theorem morph {T : TextClass} (fits : pairing.Fits T) (sound : w.statement.Sound T)
    (transform : Transform) (spread : Bool) :
    pairing.Stepped (w.step (.morph transform spread)) (w'.step (.morph transform spread)) := by
  have count := h.iterators.length_eq
  have made := h.statements.morph fits sound transform spread
  unfold Workspace.step
  dsimp only
  generalize w.statement.morph transform spread = left at made ⊢
  generalize w'.statement.morph transform spread = right at made ⊢
  cases made with
  | error e => exact ⟨rfl, h⟩
  | ok iterators =>
    have appended := List.rel_append h.iterators (.cons iterators .nil)
    exact ⟨congrArg (Except.ok ∘ StepAnswer.index) count, h.statements, appended⟩

variable {T : TextClass} (fits : pairing.Fits T)

include fits

/-- A step gives the same on both sides. -/
theorem step (sound : w.statement.Sound T) (s : Step) (through : s.throughStatement = true)
    (clean : s.Clean T w) : pairing.Stepped (w.step s) (w'.step s) := by
  cases s with
  | call call =>
    obtain ⟨result, statements⟩ := call.alike fits h.statements sound clean.1 clean.2
    exact ⟨congrArg (Except.map StepAnswer.call) result, statements, h.iterators⟩
  | renew => exact ⟨rfl, h.statements.fresh, h.iterators⟩
  | describe =>
    have shown : w.statement.state.describe = w'.statement.state.describe := by
      rw [h.statements.state]
    exact ⟨congrArg (Except.ok ∘ StepAnswer.text) shown, h⟩
  | morph transform spread => exact h.morph fits sound transform spread
  | next index =>
    rw [Workspace.step, Workspace.step]
    apply h.withIterator
    intro it it' s s' iterators sessions
    obtain ⟨outcome, after, sessions⟩ := iterators.next sessions w.logs
    rw [← h.logs]
    exact ⟨congrArg (Except.map StepAnswer.value) outcome, after, sessions⟩
  | rest index =>
    rw [Workspace.step, Workspace.step]
    apply h.withIterator
    intro it it' s s' iterators sessions
    obtain ⟨outcome, sessions⟩ := iterators.rest sessions w.logs
    rw [← h.logs]
    exact ⟨congrArg (Except.map StepAnswer.values) outcome, .finished, sessions⟩
  | stop index =>
    rw [Workspace.step, Workspace.step]
    apply h.withIterator
    intro it it' s s' iterators sessions
    exact ⟨rfl, .finished, iterators.close sessions⟩
  | rejected error => exact ⟨rfl, h⟩
  | _ => cases through

end Workspaces

end Pairing

/-- A step keeps the statement sound. -/
theorem Workspace.step_sound {d : Driver} {T : TextClass} {w : Workspace d}
    (sound : w.statement.Sound T) (s : Step) (through : s.throughStatement = true)
    (clean : s.Clean T w) : (w.step s).2.statement.Sound T := by
  have paired {index : Nat}
      {act : RowIterator d → Session d → Except Error StepAnswer × RowIterator d × Session d} :
      (w.withIterator index act).2.statement.Sound T := by
    unfold Workspace.withIterator Workspace.withSession
    split
    · exact sound
    · split
      · exact ⟨sound.emptyGroup, sound.state⟩
      · exact sound
  cases s with
  | call call => exact call.run_sound w.statement sound clean.1
  | renew => exact ⟨sound.emptyGroup, State.sound_empty⟩
  | morph transform spread =>
    unfold Workspace.step
    dsimp only
    split <;> exact sound
  | next index => exact paired
  | rest index => exact paired
  | stop index => exact paired
  | describe => exact sound
  | rejected error => exact sound
  | _ => cases through

namespace Pairing

variable {d d' : Driver} {pairing : Pairing d d'} {T : TextClass}

/-- Steps one after another give the same answers on both sides. -/
theorem Workspaces.steps (fits : pairing.Fits T) (todo : List Step) {w : Workspace d}
    {w' : Workspace d'} (h : pairing.Workspaces w w') (sound : w.statement.Sound T)
    (through : ∀ s ∈ todo, s.throughStatement = true) (clean : Workspace.Clean T todo w) :
    (w.steps todo).1 = (w'.steps todo).1 ∧
      pairing.Workspaces (w.steps todo).2 (w'.steps todo).2 := by
  induction todo generalizing w w' with
  | nil => exact ⟨rfl, h⟩
  | cons s rest ih =>
    have allowed : s.throughStatement = true := through s List.mem_cons_self
    obtain ⟨answer, after⟩ := h.step fits sound s allowed clean.1
    have kept := Workspace.step_sound sound s allowed clean.1
    -- What the first step leaves is sound and corresponds, which is all that the induction needs.
    obtain ⟨answers, last⟩ := ih after kept
      (fun t member => through t (List.mem_cons_of_mem s member)) clean.2
    exact ⟨congrArg₂ List.cons answer answers, last⟩

end Pairing

end SqlBuilder
