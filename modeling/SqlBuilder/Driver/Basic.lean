import SqlBuilder.Driver.Row
import SqlBuilder.Value.Conversion

/-!
# Drivers

A driver connects statements to a database. It prepares a text, takes the values of the
placeholders one by one with their tags, executes, and hands out the rows. Binding, executing and
fetching can fail; preparing, reading the columns, counting rows and closing cannot. A driver
reports what it does as events. The rows of a result are finite: `remaining` bounds how many are
still to come, and every fetched row lowers it.
-/

set_option autoImplicit false

namespace SqlBuilder

/-- What a call on a prepared statement leaves behind. -/
structure Contact (connection prepared event result : Type) where
  /-- The result of the call, or its error. -/
  outcome : Except Error result
  /-- The prepared statement after the call. -/
  prepared : prepared
  /-- The connection after the call. -/
  connection : connection
  /-- What happened during the call. -/
  events : List event

/-- A way to reach a database. -/
structure Driver where
  /-- The state of a connection. -/
  Connection : Type
  /-- The state of a prepared statement. -/
  Prepared : Type
  /-- What a driver reports. -/
  Event : Type
  /-- Prepares a text. -/
  prepare : String → Connection → Prepared × Connection × List Event
  /-- Binds a value to the placeholder at a position. -/
  bind : Prepared → Connection → Int → Value → Tag → Contact Connection Prepared Event Unit
  /-- Executes with the values bound so far. -/
  execute : Prepared → Connection → Contact Connection Prepared Event Unit
  /-- The column names of the result. -/
  columns : Prepared → List String
  /-- The next row, if there is one. -/
  fetch : Prepared → Connection → Contact Connection Prepared Event (Option Row)
  /-- How many rows were affected. -/
  rowCount : Prepared → Int
  /-- Releases the result. -/
  close : Prepared → Connection → Prepared × Connection × List Event
  /-- The identifier that the last insertion generated. -/
  lastInsertId : Connection → Value
  /-- A bound on the number of rows still to come. -/
  remaining : Prepared → Connection → Nat
  /-- Every fetched row lowers the bound. -/
  remaining_fetch : ∀ (p : Prepared) (c : Connection) (row : Row),
    (fetch p c).outcome = .ok (some row) →
      remaining (fetch p c).prepared (fetch p c).connection < remaining p c

/-- The error of a bind that is refused for its position. The wording shows the position, so an
integer that cannot be written out is an error of its own. -/
def refusal (position : Int) (error : Error) : Error :=
  if Value.isWritableInt position then error else .badValue

/-- How much a log record matters. -/
inductive LogLevel where
  /-- What statements are run. -/
  | debug
  /-- What statements failed. -/
  | error
  deriving DecidableEq, Repr, Inhabited

/-- What is noted while statements run. -/
inductive Entry (event : Type) where
  /-- A log record. -/
  | log (level : LogLevel) (message : String)
  /-- A report of the driver. -/
  | report (e : event)

/-- A connection in use, with everything noted since it was opened, oldest first. -/
structure Session (d : Driver) where
  /-- The connection. -/
  connection : d.Connection
  /-- What was noted. -/
  journal : List (Entry d.Event) := []

namespace Session

variable {d : Driver}

/-- A session after a log record. -/
def log (s : Session d) (level : LogLevel) (message : String) : Session d :=
  { s with journal := s.journal ++ [.log level message] }

/-- A session after the driver changed the connection and reported what it did. -/
def reach (s : Session d) (connection : d.Connection) (events : List d.Event) : Session d :=
  { connection := connection, journal := s.journal ++ events.map .report }

/-- Prepares a text. -/
def prepare (s : Session d) (sql : String) : d.Prepared × Session d :=
  let (p, connection, events) := d.prepare sql s.connection
  (p, s.reach connection events)

/-- Binds a value. -/
def bind (s : Session d) (p : d.Prepared) (position : Int) (value : Value) (tag : Tag) :
    Except Error Unit × d.Prepared × Session d :=
  let contact := d.bind p s.connection position value tag
  (contact.outcome, contact.prepared, s.reach contact.connection contact.events)

/-- Executes a prepared statement. -/
def execute (s : Session d) (p : d.Prepared) : Except Error Unit × d.Prepared × Session d :=
  let contact := d.execute p s.connection
  (contact.outcome, contact.prepared, s.reach contact.connection contact.events)

/-- Fetches the next row. -/
def fetch (s : Session d) (p : d.Prepared) :
    Except Error (Option Row) × d.Prepared × Session d :=
  let contact := d.fetch p s.connection
  (contact.outcome, contact.prepared, s.reach contact.connection contact.events)

/-- Closes a prepared statement. -/
def close (s : Session d) (p : d.Prepared) : d.Prepared × Session d :=
  let (p, connection, events) := d.close p s.connection
  (p, s.reach connection events)

/-- A log record is noted at the end of the journal. -/
@[simp] theorem journal_log (s : Session d) (level : LogLevel) (message : String) :
    (s.log level message).journal = s.journal ++ [.log level message] := rfl

/-- What a driver reports is noted at the end of the journal, in the order in which it is reported.
-/
@[simp] theorem journal_reach (s : Session d) (connection : d.Connection)
    (events : List d.Event) :
    (s.reach connection events).journal = s.journal ++ events.map .report := rfl

/-- Every fetched row lowers the bound on the rows to come. -/
theorem remaining_of_fetch {s s' : Session d} {p p' : d.Prepared} {row : Row}
    (h : s.fetch p = (.ok (some row), p', s')) :
    d.remaining p' s'.connection < d.remaining p s.connection := by
  simp only [fetch, Prod.mk.injEq] at h
  obtain ⟨outcome, rfl, rfl⟩ := h
  exact d.remaining_fetch p s.connection row outcome

end Session

end SqlBuilder
