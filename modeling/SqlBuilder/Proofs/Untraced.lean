import SqlBuilder.Proofs.Cover
import SqlBuilder.Proofs.Tracing

/-!
# Tracing changes nothing

A session on a traced driver, with the numbers and the uses left out, is a session on the driver
itself. Every exchange gives the same on both, so what is read off a trace holds of the driver.
-/

set_option autoImplicit false

namespace SqlBuilder

open Sql (Compiled)

variable {d : Driver}

/-- What an entry says without the trace. -/
def Entry.untraced : Entry d.traced.Event → List (Entry d.Event)
  | .log level message => [.log level message]
  | .report traced => (Traced.reports traced).map .report

/-- A session without the trace. -/
def Session.untraced (s : Session d.traced) : Session d :=
  { connection := s.connection.1, journal := s.journal.flatMap Entry.untraced }

/-- An iterator without the trace. -/
def RowIterator.untraced : RowIterator d.traced → RowIterator d
  | .pending compiled transform spread => .pending compiled transform spread
  | .reading p transform spread => .reading (Prod.fst p) transform spread
  | .finished => .finished

/-- A traced driver does what the driver does. -/
def Driver.tracedCover (d : Driver) : d.traced.Cover d where
  connection c := c.1
  prepared p := p.1
  reports traced := Traced.reports traced
  prepare sql c := by simp [Driver.traced]
  bind p c position value tag := by simp [Driver.traced, Contact.only]
  execute p c := by simp [Driver.traced, Contact.only]
  fetch p c := by simp [Driver.traced, Contact.only]
  close p c := by simp [Driver.traced]
  columns p := rfl
  rowCount p := rfl
  lastInsertId c := rfl

/-- What is left out of a session is the trace. -/
theorem Driver.session_tracedCover (s : Session d.traced) :
    d.tracedCover.session s = s.untraced := by
  have entries : d.tracedCover.entry = Entry.untraced := by
    funext entry
    cases entry <;> rfl
  rw [Driver.Cover.session, entries]
  rfl

namespace RowIterator

variable (it : RowIterator d.traced) (logs : Bool) (s : Session d.traced)

/-- What is left out of an iterator is the trace. -/
theorem iterator_tracedCover : d.tracedCover.iterator it = it.untraced := by
  cases it <;> rfl

/-- Pulling an iterator is the same without the reports. -/
theorem untraced_next : it.untraced.next logs s.untraced =
    ((it.next logs s).1, (it.next logs s).2.1.untraced, (it.next logs s).2.2.untraced) := by
  have same := d.tracedCover.iterator_next it logs s
  rwa [iterator_tracedCover, iterator_tracedCover, Driver.session_tracedCover,
    Driver.session_tracedCover] at same

/-- Pulling an iterator to its end is the same without the reports. -/
theorem untraced_rest : it.untraced.rest logs s.untraced =
    ((it.rest logs s).1, (it.rest logs s).2.untraced) := by
  have same := d.tracedCover.iterator_rest it logs s
  rwa [iterator_tracedCover, Driver.session_tracedCover, Driver.session_tracedCover] at same

/-- Closing an iterator is the same without the reports. -/
theorem untraced_close : it.untraced.close s.untraced = (it.close s).untraced := by
  have same := d.tracedCover.iterator_close it s
  rwa [iterator_tracedCover, Driver.session_tracedCover, Driver.session_tracedCover] at same

end RowIterator

end SqlBuilder
