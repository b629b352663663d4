import SqlBuilder.Driver.Basic

/-!
# A database that answers from a script

What a database does is given by a script: every execution takes the next reply, and an empty reply
once the script is used up. A reply holds the columns and rows of a result, the counts that a
database reports, or a failure of the execution or of the fetches after some rows.
-/

set_option autoImplicit false

namespace SqlBuilder

/-- What a database answers to one execution. -/
structure Reply where
  /-- The column names, if there is a result. -/
  columns : Option (List String) := none
  /-- The rows of the result. -/
  rows : List (List Value) := []
  /-- The number of affected rows; negative when unknown. -/
  rowCount : Int := -1
  /-- The generated identifier. -/
  lastRowId : Value := .null
  /-- The failure of the execution. -/
  failure : Option Failure := none
  /-- The failure of every fetch once this many rows are fetched. -/
  fetchFailure : Option (Nat × Failure) := none
  deriving Inhabited

/-- A connection to a scripted database. -/
structure Connection where
  /-- The replies to come. -/
  script : List Reply
  /-- The identifier that was recorded last. -/
  lastInsertId : Value := .null
  deriving Inhabited

/-- The reply to the next execution, and the connection after it. -/
def Connection.next (c : Connection) : Reply × Connection :=
  match c.script with
  | [] => ({}, c)
  | reply :: rest => (reply, { c with script := rest })

/-- What the drivers of this library report. -/
inductive Event where
  /-- A text was prepared. -/
  | prepared (sql : String)
  /-- A value was bound. -/
  | bound (position : Int) (value : Value) (tag : Tag)
  /-- A prepared statement was executed. -/
  | executed (sql : String)
  /-- A text was executed with values by position. -/
  | executedPositional (sql : String) (params : List Value)
  /-- A text was executed with the bind parameters found in it and the values given to them. -/
  | executedNamed (sql : String) (binds : List (String × Option (Value × Tag)))
  /-- A result was closed. -/
  | closed
  deriving Inhabited

/-- The rows of a result that is being read. -/
structure Cursor where
  /-- The reply with the rows. -/
  reply : Reply
  /-- How many rows are fetched. -/
  fetched : Nat := 0
  deriving Inhabited

namespace Cursor

/-- The failure of the next fetch. -/
def failure? (c : Cursor) : Option Failure :=
  match c.reply.fetchFailure with
  | some (count, failure) => if count = c.fetched then some failure else none
  | none => none

/-- The next row, if there is one and fetching does not fail. -/
def fetch (c : Cursor) : Except Failure (Option (List Value)) × Cursor :=
  match c.failure?, c.reply.rows[c.fetched]? with
  | some failure, _ => (.error failure, c)
  | none, some row => (.ok (some row), { c with fetched := c.fetched + 1 })
  | none, none => (.ok none, c)

/-- How many rows are left. -/
def remaining (c : Cursor) : Nat :=
  c.reply.rows.length - c.fetched

/-- A fetched row is one row less to come. -/
theorem remaining_fetch {c : Cursor} {row : List Value} (h : c.fetch.1 = .ok (some row)) :
    c.fetch.2.remaining < c.remaining := by
  unfold fetch at h ⊢
  cases hf : c.failure? with
  | some failure => simp [hf] at h
  | none =>
    cases hr : c.reply.rows[c.fetched]? with
    | none => simp [hf, hr] at h
    | some values =>
      have hlt : c.fetched < c.reply.rows.length := (List.getElem?_eq_some_iff.1 hr).1
      simp only [remaining]
      omega

end Cursor

/-- A row that is found with its failure and its form changed is found as it was. -/
theorem of_mapped_eq_ok {α β : Type} {outcome : Except Failure (Option α)} {f : α → β}
    {g : Failure → Error} {row : Option β}
    (h : (outcome.map (Option.map f)).mapError g = .ok row) :
    ∃ found, outcome = .ok found ∧ row = found.map f := by
  cases outcome with
  | error failure => cases h
  | ok found => exact ⟨found, rfl, (Except.ok.inj h).symm⟩

end SqlBuilder
