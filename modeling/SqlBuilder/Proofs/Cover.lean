import SqlBuilder.Proofs.Pairing

/-!
# Drivers that report more

A driver covers another one if it does the same and what it keeps and reports besides can be left
out. Then every exchange gives the same on both, and a session on the driver that reports more
becomes, with the rest left out, the session on the other. So what is read off the fuller reports
holds of the driver as it is.
-/

set_option autoImplicit false

namespace SqlBuilder

open Sql (Compiled)

variable {d d' : Driver}

/-- What a call leaves behind, with something left out. -/
def Contact.only {connection prepared event connection' prepared' event' result : Type}
    (contact : Contact connection prepared event result) (ofConnection : connection → connection')
    (ofPrepared : prepared → prepared') (ofEvent : event → List event') :
    Contact connection' prepared' event' result :=
  ⟨contact.outcome, ofPrepared contact.prepared, ofConnection contact.connection,
    contact.events.flatMap ofEvent⟩

/-- A driver does what another one does and may keep and report more. -/
structure Driver.Cover (d' d : Driver) where
  /-- What a connection is besides. -/
  connection : d'.Connection → d.Connection
  /-- What a prepared statement is besides. -/
  prepared : d'.Prepared → d.Prepared
  /-- What the other driver reports of it. -/
  reports : d'.Event → List d.Event
  /-- Preparing. -/
  prepare : ∀ sql c, d.prepare sql (connection c) =
    (prepared (d'.prepare sql c).1, connection (d'.prepare sql c).2.1,
      (d'.prepare sql c).2.2.flatMap reports)
  /-- Binding. -/
  bind : ∀ p c position value tag, d.bind (prepared p) (connection c) position value tag =
    (d'.bind p c position value tag).only connection prepared reports
  /-- Executing. -/
  execute : ∀ p c, d.execute (prepared p) (connection c) =
    (d'.execute p c).only connection prepared reports
  /-- Asking for a row. -/
  fetch : ∀ p c, d.fetch (prepared p) (connection c) =
    (d'.fetch p c).only connection prepared reports
  /-- Closing. -/
  close : ∀ p c, d.close (prepared p) (connection c) =
    (prepared (d'.close p c).1, connection (d'.close p c).2.1, (d'.close p c).2.2.flatMap reports)
  /-- The columns. -/
  columns : ∀ p, d.columns (prepared p) = d'.columns p
  /-- The number of affected rows. -/
  rowCount : ∀ p, d.rowCount (prepared p) = d'.rowCount p
  /-- The recorded identifier. -/
  lastInsertId : ∀ c, d.lastInsertId (connection c) = d'.lastInsertId c

namespace Driver.Cover

variable (cover : d'.Cover d)

/-- What an entry says with the rest left out. -/
def entry : Entry d'.Event → List (Entry d.Event)
  | .log level message => [.log level message]
  | .report e => (cover.reports e).map .report

/-- A session with the rest left out. -/
def session (s : Session d') : Session d :=
  { connection := cover.connection s.connection, journal := s.journal.flatMap cover.entry }

/-- Log records are the same on both drivers. -/
theorem session_log (s : Session d') (level : LogLevel) (message : String) :
    cover.session (s.log level message) = (cover.session s).log level message := by
  rw [session, Session.journal_log, List.flatMap_append]
  rfl

/-- What a call leaves behind is left behind on the covered driver, less what only the other
reports. -/
theorem session_reach (s : Session d') (connection : d'.Connection) (events : List d'.Event) :
    cover.session (s.reach connection events) =
      (cover.session s).reach (cover.connection connection) (events.flatMap cover.reports) := by
  have reported : (events.map Entry.report).flatMap cover.entry =
      (events.flatMap cover.reports).map Entry.report := by
    rw [List.flatMap_map, List.map_flatMap]
    rfl
  rw [session, Session.journal_reach, List.flatMap_append, reported]
  rfl

/-- Preparing is the same on both drivers. -/
theorem session_prepare (s : Session d') (sql : String) :
    (cover.session s).prepare sql =
      (cover.prepared (s.prepare sql).1, cover.session (s.prepare sql).2) := by
  have same := cover.prepare sql s.connection
  show ((d.prepare sql (cover.connection s.connection)).1,
    (cover.session s).reach (d.prepare sql (cover.connection s.connection)).2.1
      (d.prepare sql (cover.connection s.connection)).2.2) = _
  rw [same]
  exact Prod.ext rfl (cover.session_reach s _ _).symm

/-- Binding is the same on both drivers. -/
theorem session_bind (s : Session d') (p : d'.Prepared) (position : Int) (value : Value)
    (tag : Tag) :
    (cover.session s).bind (cover.prepared p) position value tag =
      ((s.bind p position value tag).1, cover.prepared (s.bind p position value tag).2.1,
        cover.session (s.bind p position value tag).2.2) := by
  simp only [Session.bind, session_reach]
  rw [show (cover.session s).connection = cover.connection s.connection from rfl, cover.bind]
  rfl

/-- Executing is the same on both drivers. -/
theorem session_execute (s : Session d') (p : d'.Prepared) :
    (cover.session s).execute (cover.prepared p) =
      ((s.execute p).1, cover.prepared (s.execute p).2.1, cover.session (s.execute p).2.2) := by
  simp only [Session.execute, session_reach]
  rw [show (cover.session s).connection = cover.connection s.connection from rfl, cover.execute]
  rfl

/-- Fetching is the same on both drivers. -/
theorem session_fetch (s : Session d') (p : d'.Prepared) :
    (cover.session s).fetch (cover.prepared p) =
      ((s.fetch p).1, cover.prepared (s.fetch p).2.1, cover.session (s.fetch p).2.2) := by
  simp only [Session.fetch, session_reach]
  rw [show (cover.session s).connection = cover.connection s.connection from rfl, cover.fetch]
  rfl

/-- Closing is the same on both drivers. -/
theorem session_close (s : Session d') (p : d'.Prepared) :
    (cover.session s).close (cover.prepared p) =
      (cover.prepared (s.close p).1, cover.session (s.close p).2) := by
  have same := cover.close p s.connection
  show ((d.close (cover.prepared p) (cover.connection s.connection)).1,
    (cover.session s).reach (d.close (cover.prepared p) (cover.connection s.connection)).2.1
      (d.close (cover.prepared p) (cover.connection s.connection)).2.2) = _
  rw [same]
  exact Prod.ext rfl (cover.session_reach s _ _).symm

/-- Binding values one after another is the same on both drivers. -/
theorem session_bindFrom (s : Session d') (p : d'.Prepared) (position : Nat)
    (values : List Value) :
    (cover.session s).bindFrom (cover.prepared p) position values =
      ((s.bindFrom p position values).1, cover.prepared (s.bindFrom p position values).2.1,
        cover.session (s.bindFrom p position values).2.2) := by
  induction values generalizing s p position with
  | nil => rfl
  | cons value rest ih =>
    rw [Session.bindFrom, Session.bindFrom, session_bind]
    cases s.bind p position value value.tag with
    | mk outcome after =>
      cases outcome with
      | error e => rfl
      | ok done => exact ih after.2 after.1 (position + 1)

/-- Binding the values and executing is the same on both drivers. -/
theorem session_launch (s : Session d') (p : d'.Prepared) (values : List Value) :
    (cover.session s).launch (cover.prepared p) values =
      ((s.launch p values).1, cover.prepared (s.launch p values).2.1,
        cover.session (s.launch p values).2.2) := by
  rw [Session.launch, Session.launch, session_bindFrom]
  cases s.bindFrom p 0 values with
  | mk outcome after =>
    cases outcome with
    | error e => rfl
    | ok done => exact cover.session_execute after.2 after.1

/-- Compiled SQL is announced in the same way on both drivers. -/
theorem session_announce (s : Session d') (logs : Bool) (compiled : Compiled) :
    cover.session (s.announce logs compiled) = (cover.session s).announce logs compiled := by
  cases logs with
  | false => rfl
  | true => exact cover.session_log s _ _

/-- Running a compiled statement. -/
theorem session_run (s : Session d') (logs : Bool) (compiled : Compiled) :
    (cover.session s).run logs compiled =
      ((s.run logs compiled).1.map cover.prepared, cover.session (s.run logs compiled).2) := by
  -- Both sides take the same branch at each turn, as outcomes and names are the same.
  rw [Session.run, Session.run, ← session_announce, session_prepare]
  cases (s.announce logs compiled).prepare compiled.sql with
  | mk p s₁ =>
    simp only [session_launch]
    cases s₁.launch p compiled.params with
    | mk outcome after =>
      obtain ⟨p₂, s₂⟩ := after
      cases outcome with
      | error e =>
        cases own : e.isDriverError with
        | true =>
          simp only [own, if_true, ← session_log, session_close]
          rfl
        | false =>
          simp only [own, Bool.false_eq_true, if_false]
          rfl
      | ok done =>
        simp only [cover.columns]
        cases repeatedNames (d'.columns p₂) with
        | nil => rfl
        | cons name names =>
          simp only [session_close]
          rfl

/-- A driver and one that covers it are paired: sessions correspond when one is the other with the
rest left out. -/
def pairing : Pairing d' d where
  session s' s := cover.session s' = s
  reading p' p := cover.prepared p' = p
  runs _ := True
  generates _ := True
  run := by
    rintro s' _ compiled rfl - logs
    rw [session_run]
    refine ⟨?_, rfl⟩
    cases (s'.run logs compiled).1 with
    | error e => exact .error e
    | ok p => exact .ok rfl
  fetch := by
    rintro s' _ p' _ rfl rfl
    rw [session_fetch]
    exact ⟨rfl, rfl, rfl⟩
  close := by
    rintro s' _ p' _ rfl rfl
    rw [session_close]
  rowCount := by
    rintro p' _ rfl
    exact (cover.rowCount p').symm
  identifier := by
    rintro s' _ compiled logs p' p t' t rfl - - left right
    rw [session_run, left] at right
    obtain ⟨reads, rfl⟩ := Prod.mk.inj right
    rw [← Except.ok.inj reads, session_close]
    exact (cover.lastInsertId _).symm

/-! ## Iterators -/

/-- An iterator with the rest left out. -/
def iterator : RowIterator d' → RowIterator d
  | .pending compiled transform spread => .pending compiled transform spread
  | .reading p transform spread => .reading (cover.prepared p) transform spread
  | .finished => .finished

/-- An iterator corresponds to itself with the rest left out, and to no other. -/
theorem iterators_iff {it : RowIterator d'} {it' : RowIterator d} :
    cover.pairing.Iterators it it' ↔ cover.iterator it = it' := by
  constructor
  · intro h
    cases h with
    | pending runs transform spread => rfl
    | reading reads transform spread =>
      cases reads
      rfl
    | finished => rfl
  · rintro rfl
    cases it with
    | pending compiled transform spread => exact .pending trivial transform spread
    | reading p transform spread => exact .reading rfl transform spread
    | finished => exact .finished

variable (it : RowIterator d') (logs : Bool) (s : Session d')

/-- Pulling an iterator is the same on both drivers. -/
theorem iterator_next : (cover.iterator it).next logs (cover.session s) =
    ((it.next logs s).1, cover.iterator (it.next logs s).2.1,
      cover.session (it.next logs s).2.2) := by
  have same : cover.pairing.session s (cover.session s) := rfl
  obtain ⟨outcome, iterators, sessions⟩ := (cover.iterators_iff.2 rfl).next same logs
  exact Prod.ext outcome.symm
    (Prod.ext (cover.iterators_iff.1 iterators).symm (sessions : cover.session _ = _).symm)

/-- Pulling an iterator to its end is the same on both drivers. -/
theorem iterator_rest : (cover.iterator it).rest logs (cover.session s) =
    ((it.rest logs s).1, cover.session (it.rest logs s).2) := by
  have same : cover.pairing.session s (cover.session s) := rfl
  obtain ⟨outcome, sessions⟩ := (cover.iterators_iff.2 rfl).rest same logs
  exact Prod.ext outcome.symm (sessions : cover.session _ = _).symm

/-- Closing an iterator is the same on both drivers. -/
theorem iterator_close : (cover.iterator it).close (cover.session s) = cover.session (it.close s) :=
  have same : cover.pairing.session s (cover.session s) := rfl
  ((cover.iterators_iff.2 rfl).close same : cover.session _ = _).symm

end Driver.Cover

end SqlBuilder
