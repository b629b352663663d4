import SqlBuilder.Driver.Basic
import SqlBuilder.Sql.Placeholder

/-!
# Running compiled statements

A compiled statement runs in one exchange with the driver: it is prepared, its values are bound in
order with their tags, and it is executed. A failure that comes in this library's terms is logged
and closes the statement; rows are keyed by column name, so a result with two columns of one name
is refused. `fetchAll` reads all rows, `insert` gives the generated identifier and `affect` the
number of affected rows; each closes the statement at the end.
-/

set_option autoImplicit false

namespace SqlBuilder

open Sql (Compiled)

/-- The names that occur more than once, each once, sorted. -/
def repeatedNames (names : List String) : List String :=
  (names.filter fun name => 1 < names.count name).eraseDups.mergeSort

namespace Session

variable {d : Driver}

/-- Binds values to the placeholders from a position on, up to the first that fails. -/
def bindFrom (s : Session d) (p : d.Prepared) (position : Nat) :
    List Value → Except Error Unit × d.Prepared × Session d
  | [] => (.ok (), p, s)
  | value :: rest =>
    match s.bind p position value value.tag with
    | (.ok _, p, s) => s.bindFrom p (position + 1) rest
    | (.error e, p, s) => (.error e, p, s)

/-- Binds all values and executes. -/
def launch (s : Session d) (p : d.Prepared) (params : List Value) :
    Except Error Unit × d.Prepared × Session d :=
  match s.bindFrom p 0 params with
  | (.ok _, p, s) => s.execute p
  | failed => failed

/-- The log record of a statement that is about to run. -/
def startMessage (compiled : Compiled) : String :=
  "Executing " ++ compiled.sql ++ " with " ++ toString compiled.params.length ++ " binding(s)"

/-- The log record of a statement that failed. -/
def failureMessage (compiled : Compiled) : String :=
  "Statement failed: " ++ compiled.sql

/-- A session after the log record of a statement, if statements are logged. -/
def announce (s : Session d) (logs : Bool) (compiled : Compiled) : Session d :=
  if logs then s.log .debug (startMessage compiled) else s

/-- The log records of a statement that would run if there were a session. -/
def announcement (logs : Bool) (compiled : Compiled) : List (Entry d.Event) :=
  if logs then [.log .debug (startMessage compiled)] else []

/-- A log record does not touch the connection. -/
theorem connection_announce (s : Session d) (logs : Bool) (compiled : Compiled) :
    (s.announce logs compiled).connection = s.connection := by
  cases logs <;> rfl

/-- Runs a compiled statement; whoever gets the prepared statement has to close it. -/
def run (s : Session d) (logs : Bool) (compiled : Compiled) :
    Except Error d.Prepared × Session d :=
  let (p, s) := (s.announce logs compiled).prepare compiled.sql
  match s.launch p compiled.params with
  | (.error e, p, s) =>
    if e.isDriverError then
      (.error e, ((s.log .error (failureMessage compiled)).close p).2)
    else (.error e, s)
  | (.ok _, p, s) =>
    match repeatedNames (d.columns p) with
    | [] => (.ok p, s)
    | names => (.error (.duplicateColumns names), (s.close p).2)

/-- What a function makes of each remaining row, and the session after closing; the first error of
a fetch or of the function ends the reading. -/
def collect {α : Type} (f : Row → Except Error α) (s : Session d) (p : d.Prepared) :
    Except Error (List α) × Session d :=
  match _h : s.fetch p with
  | (.error e, p', s') => (.error e, (s'.close p').2)
  | (.ok none, p', s') => (.ok [], (s'.close p').2)
  | (.ok (some row), p', s') =>
    match f row with
    | .error e => (.error e, (s'.close p').2)
    | .ok a =>
      let (rest, s'') := collect f s' p'
      (rest.map (a :: ·), s'')
termination_by d.remaining p s.connection
decreasing_by exact remaining_of_fetch (by assumption)

/-- All rows of a compiled statement. -/
def fetchAll (s : Session d) (logs : Bool) (compiled : Compiled) :
    Except Error (List Row) × Session d :=
  match s.run logs compiled with
  | (.error e, s) => (.error e, s)
  | (.ok p, s) => s.collect .ok p

/-- The identifier that a compiled insertion generates. -/
def insert (s : Session d) (logs : Bool) (compiled : Compiled) :
    Except Error Value × Session d :=
  match s.run logs compiled with
  | (.error e, s) => (.error e, s)
  | (.ok p, s) =>
    let s := (s.close p).2
    (.ok (d.lastInsertId s.connection), s)

/-- The number of rows that a compiled mutation affects. -/
def affect (s : Session d) (logs : Bool) (compiled : Compiled) :
    Except Error Int × Session d :=
  match s.run logs compiled with
  | (.error e, s) => (.error e, s)
  | (.ok p, s) => (.ok (d.rowCount p), (s.close p).2)

end Session

end SqlBuilder
