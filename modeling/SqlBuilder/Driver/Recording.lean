import SqlBuilder.Driver.Scripted

/-!
# The recording driver

A driver that passes everything on and reports every call that prepares, binds, executes or closes.
Failures keep their kind, and the generated identifier of every execution is recorded as it is.
-/

set_option autoImplicit false

namespace SqlBuilder.Recording

/-- A prepared statement. -/
structure Prepared where
  /-- The text. -/
  sql : String
  /-- The result of the last execution. -/
  cursor : Option Cursor := none
  deriving Inhabited

namespace Prepared

/-- Binding is only reported. -/
def bind (p : Prepared) (c : Connection) (position : Int) (value : Value) (tag : Tag) :
    Contact Connection Prepared Event Unit :=
  ⟨.ok (), p, c, [.bound position value tag]⟩

/-- Execution takes the next reply. -/
def execute (p : Prepared) (c : Connection) : Contact Connection Prepared Event Unit :=
  let (reply, c) := c.next
  match reply.failure with
  | some failure => ⟨.error (.native failure), p, c, [.executed p.sql]⟩
  | none =>
    ⟨.ok (), { p with cursor := some { reply := reply } },
      { c with lastInsertId := reply.lastRowId }, [.executed p.sql]⟩

/-- The column names of the result. -/
def columns (p : Prepared) : List String :=
  (p.cursor.bind fun cursor => cursor.reply.columns).getD []

/-- The next row with its column names. -/
def fetch (p : Prepared) (c : Connection) : Contact Connection Prepared Event (Option Row) :=
  match p.cursor with
  | none => ⟨.ok none, p, c, []⟩
  | some cursor =>
    let (outcome, cursor) := cursor.fetch
    let row := (outcome.map (Option.map (Row.zip p.columns))).mapError .native
    ⟨row, { p with cursor := some cursor }, c, []⟩

/-- The number of affected rows as the database reports it. -/
def rowCount (p : Prepared) : Int :=
  match p.cursor with
  | none => 0
  | some cursor => cursor.reply.rowCount

/-- How many rows are left. -/
def remaining (p : Prepared) : Nat :=
  match p.cursor with
  | none => 0
  | some cursor => cursor.remaining

/-- A fetched row is one row less to come. -/
theorem remaining_fetch (p : Prepared) (c : Connection) (row : Row)
    (h : (p.fetch c).outcome = .ok (some row)) : (p.fetch c).prepared.remaining < p.remaining := by
  unfold fetch at h ⊢
  cases hp : p.cursor with
  | none => simp [hp] at h
  | some cursor =>
    simp only [hp] at h ⊢
    simp only [remaining, hp]
    obtain ⟨found, fetched, shown⟩ := of_mapped_eq_ok h
    cases found with
    | none => cases shown
    | some values => exact Cursor.remaining_fetch fetched

end Prepared

/-- The recording driver. -/
def driver : Driver where
  Connection := Connection
  Prepared := Prepared
  Event := Event
  prepare sql c := ({ sql := sql }, c, [.prepared sql])
  bind := Prepared.bind
  execute := Prepared.execute
  columns := Prepared.columns
  fetch := Prepared.fetch
  rowCount := Prepared.rowCount
  close p c := (p, c, [.closed])
  lastInsertId c := c.lastInsertId
  remaining p _ := p.remaining
  remaining_fetch := Prepared.remaining_fetch

end SqlBuilder.Recording
