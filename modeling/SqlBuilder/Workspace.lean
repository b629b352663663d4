import SqlBuilder.Statement.Call
import SqlBuilder.Value.Identity

/-!
# Workspaces

A workspace is a statement together with the iterators and the prepared statements that were made
with its session. Steps act on it one after another, and a step that fails does not stop the next:
calls of methods, pulls on iterators, compiled statements run directly, and exchanges with the
driver by hand.
-/

set_option autoImplicit false

namespace SqlBuilder

open Sql (Compiled)

namespace Transform

/-- The transform that gives its argument back. -/
def whole : Transform
  | [argument] => .ok argument
  | _ => .error .wrongType

/-- The transform that lists its arguments. -/
def listed : Transform :=
  fun arguments => .ok (.series .list arguments)

/-- The transform that lists its two arguments. -/
def pair : Transform
  | [first, second] => .ok (.series .list [first, second])
  | _ => .error .wrongType

/-- The transform that looks a key up in its argument. -/
def entry (key : String) : Transform
  | [.mapping pairs] =>
    match (pairs.find? fun pair => pair.1.text? == some key).map Prod.snd with
    | some value => .ok value
    | none => .error .missingKey
  | _ => .error .wrongType

/-- The transform that refuses every value. -/
def refusing : Transform :=
  fun _ => .error .badValue

end Transform

/-- A statement with the iterators and prepared statements made beside it. -/
structure Workspace (d : Driver) where
  /-- The statement. -/
  statement : Statement d
  /-- The iterators, by number. -/
  iterators : List (RowIterator d) := []
  /-- The prepared statements, by number. -/
  handles : List d.Prepared := []
  /-- The log records of compiled statements for which there was no session. -/
  unsent : List (Entry d.Event) := []

/-- Something to do in a workspace. -/
inductive Step where
  /-- A call of a method. -/
  | call (call : Call)
  /-- A fresh statement in place of the old one. -/
  | renew
  /-- The statement as it is shown. -/
  | describe
  /-- The identifier that was generated last. -/
  | lastInsertId
  /-- A new iterator. -/
  | morph (transform : Transform) (spread : Bool)
  /-- The next value of an iterator. -/
  | next (index : Nat)
  /-- All remaining values of an iterator. -/
  | rest (index : Nat)
  /-- Closes an iterator. -/
  | stop (index : Nat)
  /-- All rows of a compiled statement. -/
  | fetchAll (compiled : Compiled)
  /-- A compiled insertion. -/
  | insert (compiled : Compiled)
  /-- A compiled mutation. -/
  | affect (compiled : Compiled)
  /-- Prepares a text. -/
  | prepare (sql : String)
  /-- Binds a value. -/
  | bind (index : Nat) (position : Int) (value : Value) (tag : Option Tag)
  /-- Executes a prepared statement. -/
  | execute (index : Nat)
  /-- Fetches a row. -/
  | fetch (index : Nat)
  /-- Closes a prepared statement. -/
  | close (index : Nat)
  /-- The columns of a prepared statement. -/
  | columns (index : Nat)
  /-- The number of rows that a prepared statement affected. -/
  | rowCount (index : Nat)
  /-- A step that cannot be done. -/
  | rejected (error : Error)

/-- The result of a step. -/
inductive StepAnswer where
  /-- The answer of a call. -/
  | call (answer : Answer)
  /-- A value. -/
  | value (v : Value)
  /-- A list of values. -/
  | values (vs : List Value)
  /-- Rows. -/
  | rows (rows : List Row)
  /-- At most one row. -/
  | row (row : Option Row)
  /-- A text. -/
  | text (s : String)
  /-- Names. -/
  | names (names : List String)
  /-- The number of a new iterator or prepared statement. -/
  | index (n : Nat)
  /-- A number of rows. -/
  | count (n : Int)
  /-- Nothing. -/
  | nothing

namespace Workspace

variable {d : Driver}

/-- A workspace with another session. -/
def onSession (w : Workspace d) (session : Session d) : Workspace d :=
  { w with statement := { w.statement with session := some session } }

/-- The result of acting on the session, which there must be. -/
def withSession (w : Workspace d) (act : Session d → Except Error StepAnswer × Workspace d) :
    Except Error StepAnswer × Workspace d :=
  match w.statement.session with
  | some session => act session
  | none => (.error .noSuchOperation, w)

/-- Everything noted so far, by the session or for the lack of one. -/
def journal (w : Workspace d) : List (Entry d.Event) :=
  match w.statement.session with
  | some session => session.journal
  | none => w.unsent

/-- Whether running statements are logged. -/
def logs (w : Workspace d) : Bool :=
  w.statement.options.logStatements

/-- The result of running a compiled statement on the session. The log record comes first, so
without a session it is all that happens. -/
def running {α : Type} (w : Workspace d) (kind : α → StepAnswer) (compiled : Compiled)
    (run : Session d → Bool → Compiled → Except Error α × Session d) :
    Except Error StepAnswer × Workspace d :=
  match w.statement.session with
  | some session =>
    let (outcome, session) := run session w.logs compiled
    (outcome.map kind, w.onSession session)
  | none =>
    (.error .noSuchOperation,
      { w with unsent := w.unsent ++ Session.announcement w.logs compiled })

/-- The result of acting on an iterator. -/
def withIterator (w : Workspace d) (index : Nat)
    (act : RowIterator d → Session d → Except Error StepAnswer × RowIterator d × Session d) :
    Except Error StepAnswer × Workspace d :=
  match w.iterators[index]? with
  | none => (.error .noSuchItem, w)
  | some iterator =>
    w.withSession fun session =>
      let (outcome, iterator, session) := act iterator session
      (outcome, { w.onSession session with iterators := w.iterators.set index iterator })

/-- The result of acting on a prepared statement. -/
def withHandle (w : Workspace d) (index : Nat)
    (act : d.Prepared → Session d → Except Error StepAnswer × d.Prepared × Session d) :
    Except Error StepAnswer × Workspace d :=
  match w.handles[index]? with
  | none => (.error .noSuchItem, w)
  | some p =>
    w.withSession fun session =>
      let (outcome, p, session) := act p session
      (outcome, { w.onSession session with handles := w.handles.set index p })

/-- Does a step. -/
def step (w : Workspace d) : Step → Except Error StepAnswer × Workspace d
  | .call call =>
    let (outcome, statement) := call.run w.statement
    (outcome.map .call, { w with statement := statement })
  | .renew => (.ok (.call .self), { w with statement := w.statement.fresh })
  | .describe => (.ok (.text w.statement.state.describe), w)
  | .lastInsertId =>
    w.withSession fun session => (.ok (.value (d.lastInsertId session.connection)), w)
  | .morph transform spread =>
    match w.statement.morph transform spread with
    | .error e => (.error e, w)
    | .ok iterator =>
      (.ok (.index w.iterators.length), { w with iterators := w.iterators ++ [iterator] })
  | .next index =>
    w.withIterator index fun iterator session =>
      let (outcome, iterator, session) := iterator.next w.logs session
      (outcome.map .value, iterator, session)
  | .rest index =>
    w.withIterator index fun iterator session =>
      let (outcome, session) := iterator.rest w.logs session
      (outcome.map .values, .finished, session)
  | .stop index =>
    w.withIterator index fun iterator session =>
      (.ok .nothing, .finished, iterator.close session)
  | .fetchAll compiled => w.running .rows compiled Session.fetchAll
  | .insert compiled => w.running .value compiled Session.insert
  | .affect compiled => w.running .count compiled Session.affect
  | .prepare sql =>
    w.withSession fun session =>
      let (p, session) := session.prepare sql
      (.ok (.index w.handles.length), { w.onSession session with handles := w.handles ++ [p] })
  | .bind index position value tag =>
    w.withHandle index fun p session =>
      let (outcome, p, session) := session.bind p position value (tag.getD value.tag)
      (outcome.map fun _ => .nothing, p, session)
  | .execute index =>
    w.withHandle index fun p session =>
      let (outcome, p, session) := session.execute p
      (outcome.map fun _ => .nothing, p, session)
  | .fetch index =>
    w.withHandle index fun p session =>
      let (outcome, p, session) := session.fetch p
      (outcome.map .row, p, session)
  | .close index =>
    w.withHandle index fun p session =>
      let (p, session) := session.close p
      (.ok .nothing, p, session)
  | .columns index => w.withHandle index fun p session => (.ok (.names (d.columns p)), p, session)
  | .rowCount index => w.withHandle index fun p session => (.ok (.count (d.rowCount p)), p, session)
  | .rejected error => (.error error, w)

/-- Does steps one after another and gives all results. -/
def steps (w : Workspace d) : List Step → List (Except Error StepAnswer) × Workspace d
  | [] => ([], w)
  | s :: rest =>
    let (outcome, w) := w.step s
    let (outcomes, w) := w.steps rest
    (outcome :: outcomes, w)

end Workspace

end SqlBuilder
