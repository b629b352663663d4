import SqlBuilder.Execution.Basic

/-!
# Lazy rows

An iterator holds a compiled statement and a transform. Nothing happens before the first pull, which
runs the statement; each pull then gives what the transform makes of the next row. The statement is
closed when the rows are used up, when the iterator is closed, and when a fetch or the transform
fails. A finished iterator stays finished.
-/

set_option autoImplicit false

namespace SqlBuilder

open Sql (Compiled)

/-- What is made of a row: a function of one argument, the row, or of its values. -/
abbrev Transform := List Value → Except Error Value

/-- What a transform makes of a row, given as one argument or spread out. -/
def Row.through (row : Row) (transform : Transform) (spread : Bool) : Except Error Value :=
  transform (if spread then row.values else [row.toValue])

/-- An iterator over the rows of a statement. -/
inductive RowIterator (d : Driver) where
  /-- Nothing was pulled yet. -/
  | pending (compiled : Compiled) (transform : Transform) (spread : Bool)
  /-- The statement runs. -/
  | reading (prepared : d.Prepared) (transform : Transform) (spread : Bool)
  /-- There is nothing left to pull. -/
  | finished

namespace RowIterator

variable {d : Driver}

/-- The next value of a running statement. -/
def advance (s : Session d) (p : d.Prepared) (transform : Transform) (spread : Bool) :
    Except Error Value × RowIterator d × Session d :=
  match s.fetch p with
  | (.error e, p, s) => (.error e, finished, (s.close p).2)
  | (.ok none, p, s) => (.error .exhausted, finished, (s.close p).2)
  | (.ok (some row), p, s) =>
    match row.through transform spread with
    | .error e => (.error e, finished, (s.close p).2)
    | .ok value => (.ok value, reading p transform spread, s)

/-- The next value. -/
def next (it : RowIterator d) (logs : Bool) (s : Session d) :
    Except Error Value × RowIterator d × Session d :=
  match it with
  | finished => (.error .exhausted, finished, s)
  | reading p transform spread => advance s p transform spread
  | pending compiled transform spread =>
    match s.run logs compiled with
    | (.error e, s) => (.error e, finished, s)
    | (.ok p, s) => advance s p transform spread

/-- All remaining values; the iterator is finished afterwards. -/
def rest (it : RowIterator d) (logs : Bool) (s : Session d) :
    Except Error (List Value) × Session d :=
  match it with
  | finished => (.ok [], s)
  | reading p transform spread => s.collect (fun row => row.through transform spread) p
  | pending compiled transform spread =>
    match s.run logs compiled with
    | (.error e, s) => (.error e, s)
    | (.ok p, s) => s.collect (fun row => row.through transform spread) p

/-- The session after closing an iterator; a statement that runs is closed. -/
def close (it : RowIterator d) (s : Session d) : Session d :=
  match it with
  | reading p _ _ => (s.close p).2
  | pending _ _ _ | finished => s

/-- A finished iterator has no next row, and does not touch the session. -/
@[simp] theorem next_finished (logs : Bool) (s : Session d) :
    next finished logs s = (.error .exhausted, finished, s) := rfl

/-- No rows are left of a finished iterator, and the session is not touched. -/
@[simp] theorem rest_finished (logs : Bool) (s : Session d) : rest finished logs s = (.ok [], s) :=
  rfl

/-- Closing a finished iterator does nothing. -/
@[simp] theorem close_finished (s : Session d) : close finished s = s := rfl

/-- Closing an iterator that was not pulled yet leaves no trace. -/
@[simp] theorem close_pending (compiled : Compiled) (transform : Transform) (spread : Bool)
    (s : Session d) : close (pending compiled transform spread) s = s := rfl

end RowIterator

end SqlBuilder
