import SqlBuilder.Proofs.NativeFailures
import SqlBuilder.Workspace

/-!
# Conversations with a prepared statement

A prepared statement is bound, executed, read, counted and closed in any order, and other statements
may use the connection in between. So a conversation is a list of calls, each with the connection
that it finds; nothing is assumed about that. Its history says what each call came to. The steps
that a workspace does on one of its prepared statements are such a conversation
(`Workspace.steps_converse`), and all that is bound after it are the values that it accepted
(`Driver.Prepares.converse`).
-/

set_option autoImplicit false

namespace SqlBuilder

/-- A call on a prepared statement. -/
inductive HandleCall where
  /-- Binds a value. -/
  | bind (position : Int) (value : Value) (tag : Tag)
  /-- Executes. -/
  | execute
  /-- Fetches a row. -/
  | fetch
  /-- Asks for the names of the columns. -/
  | columns
  /-- Asks for the number of affected rows. -/
  | rowCount
  /-- Closes. -/
  | close

/-- A call that was made, with what came of it. -/
structure Made (d : Driver) where
  /-- The call. -/
  call : HandleCall
  /-- Its result or its error. -/
  outcome : Except Error StepAnswer
  /-- What the driver reported. -/
  events : List d.Event

/-- What a call leaves behind, with its result in another form. -/
def Contact.map {connection prepared event result result' : Type} (f : result → result')
    (contact : Contact connection prepared event result) :
    Contact connection prepared event result' :=
  ⟨contact.outcome.map f, contact.prepared, contact.connection, contact.events⟩

variable {d : Driver}

namespace Driver

/-- Makes a call on a prepared statement. -/
def handle (d : Driver) (p : d.Prepared) (c : d.Connection) :
    HandleCall → Contact d.Connection d.Prepared d.Event StepAnswer
  | .bind position value tag => (d.bind p c position value tag).map fun _ => .nothing
  | .execute => (d.execute p c).map fun _ => .nothing
  | .fetch => (d.fetch p c).map .row
  | .columns => ⟨.ok (.names (d.columns p)), p, c, []⟩
  | .rowCount => ⟨.ok (.count (d.rowCount p)), p, c, []⟩
  | .close => ⟨.ok .nothing, (d.close p c).1, (d.close p c).2.1, (d.close p c).2.2⟩

/-- A call with what comes of it. -/
def make (d : Driver) (p : d.Prepared) (c : d.Connection) (call : HandleCall) : Made d :=
  ⟨call, (d.handle p c call).outcome, (d.handle p c call).events⟩

/-- Makes calls one after another, each on the connection that it finds, and gives their history and
the prepared statement after them. -/
def converse (d : Driver) (p : d.Prepared) :
    List (d.Connection × HandleCall) → List (Made d) × d.Prepared
  | [] => ([], p)
  | (c, call) :: rest =>
    let (history, q) := d.converse (d.handle p c call).prepared rest
    (d.make p c call :: history, q)

/-- No calls have no history and change nothing. -/
@[simp] theorem converse_nil (p : d.Prepared) : d.converse p [] = ([], p) := rfl

/-- A call is made on the connection that it finds, and the others on what it leaves of the prepared
statement. -/
@[simp] theorem converse_cons (p : d.Prepared) (c : d.Connection) (call : HandleCall)
    (rest : List (d.Connection × HandleCall)) : d.converse p ((c, call) :: rest) =
      (d.make p c call :: (d.converse (d.handle p c call).prepared rest).1,
        (d.converse (d.handle p c call).prepared rest).2) := rfl

end Driver

/-! ## Accepted values -/

/-- The value that a call binds and that is accepted, with its tag. -/
def Made.accepted? (made : Made d) : Option (Value × Tag) :=
  match made.call, made.outcome with
  | .bind _ value tag, .ok _ => some (value, tag)
  | _, _ => none

/-- The values that were accepted, in order, each with its tag. -/
def acceptedIn (history : List (Made d)) : List (Value × Tag) :=
  history.filterMap Made.accepted?

namespace Driver.Prepares

variable {sql : String} {given : List (Value × Tag)} {p : d.Prepared}

/-- A call accepts one value more or none. -/
theorem handle (h : d.Prepares sql given p) (c : d.Connection) (call : HandleCall) :
    d.Prepares sql (given ++ (d.make p c call).accepted?.toList) (d.handle p c call).prepared := by
  cases call with
  | bind position value tag =>
    cases outcome : (d.bind p c position value tag).outcome with
    | ok done =>
      have more : (d.make p c (.bind position value tag)).accepted? = some (value, tag) := by
        simp only [make, Driver.handle, Contact.map, outcome, Made.accepted?, Except.map]
      rw [more]
      exact h.accepted c position value tag outcome
    | error e =>
      have none : (d.make p c (.bind position value tag)).accepted? = none := by
        simp only [make, Driver.handle, Contact.map, outcome, Made.accepted?, Except.map]
      rw [none, Option.toList_none, List.append_nil]
      exact h.refused c position value tag outcome
  | execute => simpa [Made.accepted?, make, Driver.handle, Contact.map] using h.executed c
  | fetch => simpa [Made.accepted?, make, Driver.handle, Contact.map] using h.fetched c
  | columns => simpa [Made.accepted?, make, Driver.handle, Contact.map] using h
  | rowCount => simpa [Made.accepted?, make, Driver.handle, Contact.map] using h
  | close => simpa [Made.accepted?, make, Driver.handle, Contact.map] using h.closed c

/-- After a conversation the accepted values are there, and no others. -/
theorem converse (h : d.Prepares sql given p) (calls : List (d.Connection × HandleCall)) :
    d.Prepares sql (given ++ acceptedIn (d.converse p calls).1) (d.converse p calls).2 := by
  induction calls generalizing given p with
  | nil => simpa [acceptedIn] using h
  | cons first rest ih =>
    obtain ⟨c, call⟩ := first
    have later := ih (h.handle c call)
    rw [List.append_assoc] at later
    rw [converse_cons]
    cases more : (d.make p c call).accepted? <;> simpa [acceptedIn, more] using later

end Driver.Prepares

/-! ## Conversations in a workspace -/

/-- The step of a workspace that makes a call on one of its prepared statements. -/
def HandleCall.step (index : Nat) : HandleCall → Step
  | bind position value tag => .bind index position value (some tag)
  | execute => .execute index
  | fetch => .fetch index
  | columns => .columns index
  | rowCount => .rowCount index
  | close => .close index

namespace Workspace

variable {w : Workspace d} {index : Nat} {p : d.Prepared} {s : Session d}

/-- A step on a prepared statement makes the call on the connection of the session. -/
theorem step_handle (handle : w.handles[index]? = some p) (session : w.statement.session = some s)
    (call : HandleCall) : w.step (call.step index) =
      ((d.handle p s.connection call).outcome,
        { w.onSession (s.reach (d.handle p s.connection call).connection
            (d.handle p s.connection call).events) with
          handles := w.handles.set index (d.handle p s.connection call).prepared }) := by
  have still : s.reach s.connection [] = s := by simp [Session.reach]
  cases call <;>
    simp [HandleCall.step, step, withHandle, withSession, handle, session, Driver.handle,
      Contact.map, Session.bind, Session.execute, Session.fetch, Session.close, still]

/-- Steps on one prepared statement of a workspace are a conversation with it. -/
theorem steps_converse (handle : w.handles[index]? = some p)
    (session : w.statement.session = some s) (todo : List HandleCall) :
    ∃ calls, calls.map Prod.snd = todo ∧
      (w.steps (todo.map (·.step index))).1 = (d.converse p calls).1.map Made.outcome ∧
      (w.steps (todo.map (·.step index))).2.handles[index]? = some (d.converse p calls).2 ∧
      (w.steps (todo.map (·.step index))).2.journal =
        s.journal ++ ((d.converse p calls).1.flatMap Made.events).map .report := by
  induction todo generalizing w p s with
  | nil => exact ⟨[], rfl, rfl, handle, by simp [steps, journal, session]⟩
  | cons call rest ih =>
    let contact := d.handle p s.connection call
    let t := s.reach contact.connection contact.events
    -- Each call finds the connection that the session has by then.
    let w' := { w.onSession t with handles := w.handles.set index contact.prepared }
    have here : w.step (call.step index) = (contact.outcome, w') := step_handle handle session call
    have within : index < w.handles.length := (List.getElem?_eq_some_iff.1 handle).1
    have handle' : w'.handles[index]? = some contact.prepared := List.getElem?_set_self within
    obtain ⟨calls, same, outcomes, after, noted⟩ := ih handle' (s := t) rfl
    refine ⟨(s.connection, call) :: calls, ?_, ?_, ?_, ?_⟩
    · rw [List.map_cons, same]
    · rw [List.map_cons, steps, here, Driver.converse_cons, List.map_cons, ← outcomes]
      rfl
    · rw [List.map_cons, steps, here, Driver.converse_cons]
      exact after
    · rw [List.map_cons, steps, here, Driver.converse_cons]
      rw [List.flatMap_cons, List.map_append, ← List.append_assoc]
      exact noted

end Workspace

end SqlBuilder
