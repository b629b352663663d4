import SqlBuilder.Proofs.Sessions
import SqlBuilder.Workspace

/-!
# What a step leaves behind

A step acts on one part of a workspace: on the statement, on one iterator, on one prepared
statement, or on the session by running compiled SQL. If there is no such part the workspace stays
as it is. So there are few ways for a workspace to change (`Workspace.effect_step`), and what all of
them keep is kept by any steps (`Workspace.steps_keep`).
-/

set_option autoImplicit false

namespace SqlBuilder

open Sql (Compiled)

/-- A property of all items is kept when one is replaced by an item that has it. -/
theorem forall_mem_set {α : Type} {holds : α → Prop} {xs : List α} (all : ∀ x ∈ xs, holds x)
    (index : Nat) {y : α} (new : holds y) : ∀ x ∈ xs.set index y, holds x := by
  intro x member
  rcases List.mem_or_eq_of_mem_set member with old | rfl
  · exact all x old
  · exact new

variable {d : Driver}

/-- An iterator and the session after it was pulled, or pulled to its end, or closed. -/
inductive RowIterator.Used (logs : Bool) (it : RowIterator d) (s : Session d) :
    RowIterator d → Session d → Prop
  /-- It is pulled. -/
  | next : Used logs it s (it.next logs s).2.1 (it.next logs s).2.2
  /-- It is pulled to its end. -/
  | rest : Used logs it s .finished (it.rest logs s).2
  /-- It is closed. -/
  | stop : Used logs it s .finished (it.close s)

namespace Session

/-- A prepared statement and the session after a call by hand. -/
inductive ByHand (s : Session d) (p : d.Prepared) : d.Prepared → Session d → Prop
  /-- A value is bound. -/
  | bind (position : Int) (value : Value) (tag : Tag) :
    ByHand s p (s.bind p position value tag).2.1 (s.bind p position value tag).2.2
  /-- It is executed. -/
  | execute : ByHand s p (s.execute p).2.1 (s.execute p).2.2
  /-- A row is asked for. -/
  | fetch : ByHand s p (s.fetch p).2.1 (s.fetch p).2.2
  /-- It is closed. -/
  | close : ByHand s p (s.close p).1 (s.close p).2
  /-- The columns or the number of affected rows are asked for. -/
  | read : ByHand s p p s

/-- A session after compiled SQL was run. -/
inductive Exchanged (logs : Bool) (s : Session d) : Session d → Prop
  /-- All rows are read. -/
  | fetchAll (compiled : Compiled) : Exchanged logs s (s.fetchAll logs compiled).2
  /-- A row is inserted. -/
  | insert (compiled : Compiled) : Exchanged logs s (s.insert logs compiled).2
  /-- Rows are changed or removed. -/
  | affect (compiled : Compiled) : Exchanged logs s (s.affect logs compiled).2

/-- A relation that every call follows and that can be chained holds between the sessions before and
after compiled SQL is run. -/
theorem Exchanged.leads {R : Session d → Session d → Prop} (chained : Chained R) {logs : Bool}
    {s s' : Session d} (h : Exchanged logs s s') : R s s' := by
  cases h with
  | fetchAll compiled => exact chained.fetchAll s logs compiled
  | insert compiled => exact chained.insert s logs compiled
  | affect compiled => exact chained.affect s logs compiled

end Session

namespace Workspace

/-- A workspace with another iterator and session. -/
def withIteratorAt (w : Workspace d) (index : Nat) (it : RowIterator d) (s : Session d) :
    Workspace d :=
  { w.onSession s with iterators := w.iterators.set index it }

/-- A workspace with another prepared statement and session. -/
def withHandleAt (w : Workspace d) (index : Nat) (p : d.Prepared) (s : Session d) : Workspace d :=
  { w.onSession s with handles := w.handles.set index p }

/-- A workspace with a text prepared by hand. -/
def withPrepared (w : Workspace d) (s : Session d) (sql : String) : Workspace d :=
  { w.onSession (s.prepare sql).2 with handles := w.handles ++ [(s.prepare sql).1] }

/-- The ways for a workspace to change. -/
inductive Effect (w : Workspace d) : Workspace d → Prop
  /-- Nothing happens. -/
  | none : Effect w w
  /-- A call is made on the statement. -/
  | called (call : Call) : Effect w { w with statement := (call.run w.statement).2 }
  /-- The statement is a fresh one. -/
  | renewed : Effect w { w with statement := w.statement.fresh }
  /-- An iterator is made. -/
  | morphed {compiled : Compiled} (compiles : w.statement.state.compile = .ok compiled)
    (transform : Transform) (spread : Bool) :
    Effect w { w with iterators := w.iterators ++ [.pending compiled transform spread] }
  /-- An iterator is used. -/
  | iterated {index : Nat} {it it' : RowIterator d} {s s' : Session d}
    (place : w.iterators[index]? = some it) (present : w.statement.session = some s)
    (used : it.Used w.logs s it' s') : Effect w (w.withIteratorAt index it' s')
  /-- A text is prepared by hand. -/
  | prepared {s : Session d} (present : w.statement.session = some s) (sql : String) :
    Effect w (w.withPrepared s sql)
  /-- A prepared statement is used by hand. -/
  | handled {index : Nat} {p p' : d.Prepared} {s s' : Session d}
    (place : w.handles[index]? = some p) (present : w.statement.session = some s)
    (byHand : s.ByHand p p' s') : Effect w (w.withHandleAt index p' s')
  /-- Compiled SQL is run. -/
  | ran {s s' : Session d} (present : w.statement.session = some s)
    (exchanged : s.Exchanged w.logs s') : Effect w (w.onSession s')
  /-- Records are noted where there is no session. -/
  | unsent (entries : List (Entry d.Event)) : Effect w { w with unsent := w.unsent ++ entries }

variable (w : Workspace d)

/-- Acting on an iterator of a workspace is an effect. -/
theorem effect_withIterator (index : Nat)
    {act : RowIterator d → Session d → Except Error StepAnswer × RowIterator d × Session d}
    (used : ∀ it s, RowIterator.Used w.logs it s (act it s).2.1 (act it s).2.2) :
    w.Effect (w.withIterator index act).2 := by
  unfold withIterator withSession
  cases place : w.iterators[index]? with
  | none => exact .none
  | some it =>
    cases present : w.statement.session with
    | none => exact .none
    | some s => exact .iterated place present (used it s)

/-- A call by hand on a prepared statement of a workspace is an effect. -/
theorem effect_withHandle (index : Nat)
    {act : d.Prepared → Session d → Except Error StepAnswer × d.Prepared × Session d}
    (byHand : ∀ p s, Session.ByHand s p (act p s).2.1 (act p s).2.2) :
    w.Effect (w.withHandle index act).2 := by
  unfold withHandle withSession
  cases place : w.handles[index]? with
  | none => exact .none
  | some p =>
    cases present : w.statement.session with
    | none => exact .none
    | some s => exact .handled place present (byHand p s)

/-- Running compiled SQL in a workspace is an effect. -/
theorem effect_running {α : Type} (kind : α → StepAnswer) (compiled : Compiled)
    {run : Session d → Bool → Compiled → Except Error α × Session d}
    (exchanged : ∀ s, Session.Exchanged w.logs s (run s w.logs compiled).2) :
    w.Effect (w.running kind compiled run).2 := by
  unfold running
  cases present : w.statement.session with
  | none => exact .unsent _
  | some s => exact .ran present (exchanged s)

/-- Every step has one of these effects. -/
theorem effect_step (step : Step) : w.Effect (w.step step).2 := by
  -- Looking up an iterator or a handle that is not there, and having no session, come to nothing.
  cases step with
  | call call => exact .called call
  | renew => exact .renewed
  | describe | rejected error => exact .none
  | lastInsertId =>
    unfold Workspace.step withSession
    cases w.statement.session <;> exact .none
  | morph transform spread =>
    rw [Workspace.step]
    cases made : w.statement.morph transform spread with
    | error e => exact .none
    | ok it =>
      obtain ⟨compiled, compiles, rfl⟩ := w.statement.of_morph made
      exact .morphed compiles transform spread
  | next index => exact w.effect_withIterator index fun it s => .next
  | rest index => exact w.effect_withIterator index fun it s => .rest
  | stop index => exact w.effect_withIterator index fun it s => .stop
  | fetchAll compiled => exact w.effect_running _ compiled fun s => .fetchAll compiled
  | insert compiled => exact w.effect_running _ compiled fun s => .insert compiled
  | affect compiled => exact w.effect_running _ compiled fun s => .affect compiled
  | prepare sql =>
    unfold Workspace.step withSession
    cases present : w.statement.session with
    | none => exact .none
    | some s => exact .prepared present sql
  | bind index position value tag =>
    exact w.effect_withHandle index fun p s => .bind position value (tag.getD value.tag)
  | execute index => exact w.effect_withHandle index fun p s => .execute
  | fetch index => exact w.effect_withHandle index fun p s => .fetch
  | close index => exact w.effect_withHandle index fun p s => .close
  | columns index | rowCount index => exact w.effect_withHandle index fun p s => .read

variable {w}

/-- What every effect keeps is kept by steps one after another. -/
theorem steps_keep {holds : Workspace d → Prop}
    (keeps : ∀ {w w'}, Effect w w' → holds w → holds w') (todo : List Step) (h : holds w) :
    holds (w.steps todo).2 := by
  induction todo generalizing w with
  | nil => exact h
  | cons first rest ih => exact ih (keeps (w.effect_step first) h)

end Workspace

end SqlBuilder
