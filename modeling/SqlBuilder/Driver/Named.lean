import SqlBuilder.Driver.Scripted
import SqlBuilder.Sql.NamedBinds
import SqlBuilder.Text.Blank
import SqlBuilder.Text.Upper

/-!
# The driver with named binds

A driver for databases that name their bind parameters. Placeholders become named binds when a text
is prepared, and every value is bound under its name with its tag. The failures of the database
toolkit are given in this library's terms; other failures pass, as does a name that the database
does not find in the text. Only statements that begin with INSERT record a generated identifier.
-/

set_option autoImplicit false

namespace SqlBuilder.Named

/-- A prepared statement. -/
structure Prepared where
  /-- The text as it was given. -/
  sql : String
  /-- The text with named binds. -/
  namedSql : String
  /-- The names of the placeholders, in order. -/
  names : List String
  /-- The bound values by name, with their tags, in order. -/
  binds : List (String × Value × Tag) := []
  /-- The bound values, in order. -/
  params : List Value := []
  /-- The column names of the last execution with a result. -/
  columns : List String := []
  /-- The reply to the last successful execution, until it is closed. -/
  reply : Option Reply := none
  /-- The rows of the last execution with a result, until it is closed. -/
  rows : Option Cursor := none
  deriving Inhabited

namespace Prepared

/-- A failure in this library's terms, if the database toolkit reports it. -/
def errorOf (p : Prepared) (failure : Failure) : Error :=
  if failure.kind = .toolkit then .rejected failure p.sql p.params else .native failure

/-- The prepared statement for a text. -/
def ofSql (sql : String) : Prepared :=
  let (namedSql, names) := Sql.toNamedBinds sql
  { sql := sql, namedSql := namedSql, names := names }

/-- A value that is bound as text is written out as one. -/
def textual (tag : Tag) (value : Value) : Except Error Value :=
  if tag = .text then value.written.map .text else .ok value

/-- A value that can be bound under its own tag is bound by it. -/
theorem textual_tag {value : Value} (h : value.isBindable = true) :
    ∃ shown, textual value.tag value = .ok shown := by
  unfold textual
  split
  · next tag =>
    obtain ⟨shown, converted⟩ := Value.convert_tag h
    rw [tag] at converted
    exact ⟨shown, converted⟩
  · exact ⟨value, rfl⟩

/-- A value that cannot be bound under its own tag is refused by it. -/
theorem textual_tag_of_not_bindable {value : Value} (h : value.isBindable = false) :
    textual value.tag value = .error .badValue := by
  obtain ⟨tag, unwritten⟩ := Value.tag_of_not_bindable h
  rw [textual, tag, unwritten]
  rfl

/-- Binding names the value after its placeholder; a value out of order or without a text changes
nothing. -/
def bind (p : Prepared) (c : Connection) (position : Int) (value : Value) (tag : Tag) :
    Contact Connection Prepared Event Unit :=
  match p.names[p.binds.length]? with
  | some name =>
    if position = p.binds.length then
      match textual tag value with
      | .error e => ⟨.error e, p, c, []⟩
      | .ok value =>
        ⟨.ok (), { p with
            binds := p.binds ++ [(name, value, tag)]
            params := p.params ++ [value] }, c, []⟩
    else ⟨.error (refusal position (.noPlaceholder position p.sql p.params)), p, c, []⟩
  | none => ⟨.error (refusal position (.noPlaceholder position p.sql p.params)), p, c, []⟩

/-- The bind parameters that the database finds in the text, with what is bound to them, if
anything is. What the database makes of a parameter without a value is for its reply to say. -/
def parameters (p : Prepared) : List (String × Option (Value × Tag)) :=
  (Sql.bindNames p.namedSql).map fun name => (name, p.binds.lookup name)

/-- Whether the database finds every bound name in the text. -/
def bindsKnown (p : Prepared) : Bool :=
  let found := Sql.bindNames p.namedSql
  p.binds.all fun bind => found.contains bind.1

/-- Whether a statement inserts: its first six characters after the blanks say so. -/
def inserts (sql : String) : Bool :=
  Text.upperChars ((Text.trimLeftBy Text.isBlank sql.toList).take 6) == "INSERT".toList

/-- A prepared statement with the reply to its execution. -/
def accept (p : Prepared) (reply : Reply) : Prepared :=
  match reply.columns with
  | some columns =>
    { p with reply := some reply, columns := columns, rows := some { reply := reply } }
  | none => { p with reply := some reply }

/-- Execution hands over all bind parameters and takes the next reply. -/
def execute (p : Prepared) (c : Connection) : Contact Connection Prepared Event Unit :=
  if !p.bindsKnown then ⟨.error .unknownBind, p, c, []⟩
  else
    let (reply, c) := c.next
    let events := [Event.executedNamed p.namedSql p.parameters]
    match reply.failure with
    | some failure => ⟨.error (p.errorOf failure), p, c, events⟩
    | none =>
      let c :=
        if inserts p.sql then { c with lastInsertId := reply.lastRowId.orElse .null } else c
      ⟨.ok (), p.accept reply, c, events⟩

/-- The row of all columns; each must have a value. -/
def complete (columns : List String) (row : Row) : Except Error Row :=
  match columns.mapM fun name => (row.get? name).map fun value => (name, value) with
  | some pairs => .ok (Row.ofPairs pairs)
  | none => .error .missingKey

/-- The next row with its column names. -/
def fetch (p : Prepared) (c : Connection) : Contact Connection Prepared Event (Option Row) :=
  match p.rows with
  | none => ⟨.ok none, p, c, []⟩
  | some cursor =>
    let (outcome, cursor) := cursor.fetch
    let row :=
      match outcome with
      | .error failure => .error (p.errorOf failure)
      | .ok none => .ok none
      | .ok (some values) => (complete p.columns (Row.zip p.columns values)).map some
    ⟨row, { p with rows := some cursor }, c, []⟩

/-- The number of affected rows, zero when it is unknown. -/
def rowCount (p : Prepared) : Int :=
  match p.reply with
  | none => 0
  | some reply => max reply.rowCount 0

/-- Closing releases the result; there is nothing to report when it is released already. -/
def close (p : Prepared) (c : Connection) : Prepared × Connection × List Event :=
  match p.reply with
  | none => (p, c, [])
  | some _ => ({ p with reply := none, rows := none }, c, [.closed])

/-- How many rows are left. -/
def remaining (p : Prepared) : Nat :=
  match p.rows with
  | none => 0
  | some cursor => cursor.remaining

/-- A fetched row is one row less to come. -/
theorem remaining_fetch (p : Prepared) (c : Connection) (row : Row)
    (h : (p.fetch c).outcome = .ok (some row)) : (p.fetch c).prepared.remaining < p.remaining := by
  unfold fetch at h ⊢
  cases hp : p.rows with
  | none => simp [hp] at h
  | some cursor =>
    simp only [hp] at h ⊢
    simp only [remaining, hp]
    cases hf : cursor.fetch.1 with
    | error failure => simp [hf] at h
    | ok found =>
      cases found with
      | none => simp [hf] at h
      | some values => exact Cursor.remaining_fetch hf

end Prepared

/-- The driver with named binds. -/
def driver : Driver where
  Connection := Connection
  Prepared := Prepared
  Event := Event
  prepare sql c := (Prepared.ofSql sql, c, [])
  bind := Prepared.bind
  execute := Prepared.execute
  columns := Prepared.columns
  fetch := Prepared.fetch
  rowCount := Prepared.rowCount
  close := Prepared.close
  lastInsertId c := c.lastInsertId
  remaining p _ := p.remaining
  remaining_fetch := Prepared.remaining_fetch

end SqlBuilder.Named
