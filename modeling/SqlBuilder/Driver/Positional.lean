import SqlBuilder.Driver.Scripted

/-!
# The positional driver

A driver for databases that understand placeholders as they are. Values are bound in order and
converted by their tags. A failure that the database itself reports is given in this library's
terms, with the statement and the values bound so far; other failures pass. A closed statement
neither has rows nor counts any until it is executed again.
-/

set_option autoImplicit false

namespace SqlBuilder.Positional

/-- A prepared statement. -/
structure Prepared where
  /-- The text. -/
  sql : String
  /-- The converted values, in order. -/
  params : List Value := []
  /-- The column names of the last successful execution. -/
  columns : List String := []
  /-- The result of the last successful execution, until it is closed. -/
  cursor : Option Cursor := none
  deriving Inhabited

namespace Prepared

/-- A failure in this library's terms, if the database itself reports it. -/
def errorOf (p : Prepared) (failure : Failure) : Error :=
  if failure.kind.isDatabase then .rejected failure p.sql p.params else .native failure

/-- Binding appends the converted value; a value out of order or of no use changes nothing. -/
def bind (p : Prepared) (c : Connection) (position : Int) (value : Value) (tag : Tag) :
    Contact Connection Prepared Event Unit :=
  if position ≠ p.params.length then
    ⟨.error (refusal position (.boundOutOfOrder position p.sql p.params)), p, c, []⟩
  else
    match Value.convert tag value with
    | .error e => ⟨.error e, p, c, []⟩
    | .ok converted => ⟨.ok (), { p with params := p.params ++ [converted] }, c, []⟩

/-- Execution hands over all bound values and takes the next reply. -/
def execute (p : Prepared) (c : Connection) : Contact Connection Prepared Event Unit :=
  let (reply, c) := c.next
  let events := [Event.executedPositional p.sql p.params]
  match reply.failure with
  | some failure => ⟨.error (p.errorOf failure), p, c, events⟩
  | none =>
    ⟨.ok (), { p with columns := reply.columns.getD [], cursor := some { reply := reply } },
      { c with lastInsertId := reply.lastRowId.orElse .null }, events⟩

/-- The next row with its column names. -/
def fetch (p : Prepared) (c : Connection) : Contact Connection Prepared Event (Option Row) :=
  match p.cursor with
  | none => ⟨.ok none, p, c, []⟩
  | some cursor =>
    let (outcome, cursor) := cursor.fetch
    let row := (outcome.map (Option.map (Row.zip p.columns))).mapError p.errorOf
    ⟨row, { p with cursor := some cursor }, c, []⟩

/-- The number of affected rows, zero when it is unknown. -/
def rowCount (p : Prepared) : Int :=
  match p.cursor with
  | none => 0
  | some cursor => max cursor.reply.rowCount 0

/-- Closing releases the result; there is nothing to report when it is released already. -/
def close (p : Prepared) (c : Connection) : Prepared × Connection × List Event :=
  match p.cursor with
  | none => (p, c, [])
  | some _ => ({ p with cursor := none }, c, [.closed])

/-- How many rows are left. -/
def remaining (p : Prepared) : Nat :=
  match p.cursor with
  | none => 0
  | some cursor => cursor.remaining

/-- A fetched row is one row less to come. -/
theorem remaining_fetch (p : Prepared) (c : Connection) (row : Row)
    (h : (p.fetch c).outcome = .ok (some row)) : (p.fetch c).prepared.remaining < p.remaining := by
  unfold fetch at h ⊢
  cases hp : p.cursor with
  | none => simp [hp] at h
  | some cursor =>
    simp only [hp] at h ⊢
    simp only [remaining, hp]
    obtain ⟨found, fetched, shown⟩ := of_mapped_eq_ok h
    cases found with
    | none => cases shown
    | some values => exact Cursor.remaining_fetch fetched

end Prepared

/-- The positional driver. -/
def driver : Driver where
  Connection := Connection
  Prepared := Prepared
  Event := Event
  prepare sql c := ({ sql := sql }, c, [])
  bind := Prepared.bind
  execute := Prepared.execute
  columns := Prepared.columns
  fetch := Prepared.fetch
  rowCount := Prepared.rowCount
  close := Prepared.close
  lastInsertId c := c.lastInsertId
  remaining p _ := p.remaining
  remaining_fetch := Prepared.remaining_fetch

/-- Opening a database, given by anything that the database layer takes: the failures that the
database itself reports name it. -/
def openDatabase (database : Value) (failure : Option Failure) : Except Error Value :=
  match failure with
  | none => .ok database
  | some failure =>
    if failure.kind.isDatabase then do
      let name ← database.written
      .error (.cannotOpen name failure)
    else .error (.native failure)

end SqlBuilder.Positional
