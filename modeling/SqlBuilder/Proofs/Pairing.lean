import SqlBuilder.Execution.RowIterator

/-!
# Drivers side by side

Two drivers are paired when corresponding sessions stay so: when a compiled statement is run, when a
row is fetched and when a statement is closed, with the same outcome on both sides. Then reading all
rows, insertions, mutations and the pulls on an iterator give the same on both.
-/

set_option autoImplicit false

namespace SqlBuilder

open Sql (Compiled)

/-- The same error on both sides, or corresponding results. -/
inductive Corresponds {α β : Type} (R : α → β → Prop) : Except Error α → Except Error β → Prop
  /-- Both fail in the same way. -/
  | error (e : Error) : Corresponds R (.error e) (.error e)
  /-- Both give something, and what they give is related. -/
  | ok {a : α} {b : β} (h : R a b) : Corresponds R (.ok a) (.ok b)

/-- When sessions on two drivers correspond. -/
structure Pairing (d d' : Driver) where
  /-- Corresponding sessions. -/
  session : Session d → Session d' → Prop
  /-- Corresponding statements that run. -/
  reading : d.Prepared → d'.Prepared → Prop
  /-- The compiled statements that can be run on both sides. -/
  runs : Compiled → Prop
  /-- The compiled statements that generate an identifier. -/
  generates : Compiled → Prop
  /-- Running compiled SQL. -/
  run : ∀ {s s' compiled}, session s s' → runs compiled → ∀ logs,
    Corresponds reading (s.run logs compiled).1 (s'.run logs compiled).1 ∧
      session (s.run logs compiled).2 (s'.run logs compiled).2
  /-- Asking for a row. -/
  fetch : ∀ {s s' p p'}, session s s' → reading p p' →
    (s.fetch p).1 = (s'.fetch p').1 ∧ reading (s.fetch p).2.1 (s'.fetch p').2.1 ∧
      session (s.fetch p).2.2 (s'.fetch p').2.2
  /-- Closing. -/
  close : ∀ {s s' p p'}, session s s' → reading p p' → session (s.close p).2 (s'.close p').2
  /-- The number of affected rows. -/
  rowCount : ∀ {p p'}, reading p p' → d.rowCount p = d'.rowCount p'
  /-- The identifier that a statement generated. -/
  identifier : ∀ {s s' compiled logs p p' t t'}, session s s' → runs compiled →
    generates compiled → s.run logs compiled = (.ok p, t) → s'.run logs compiled = (.ok p', t') →
      d.lastInsertId (t.close p).2.connection = d'.lastInsertId (t'.close p').2.connection

namespace Session

variable {d : Driver}

/-- Reading ends with the error of a fetch. -/
theorem collect_of_error {α : Type} {f : Row → Except Error α} {s s' : Session d}
    {p p' : d.Prepared} {e : Error} (h : s.fetch p = (.error e, p', s')) :
    s.collect f p = (.error e, (s'.close p').2) := by
  rw [collect]
  split <;> simp_all

/-- Reading ends with the rows. -/
theorem collect_of_none {α : Type} {f : Row → Except Error α} {s s' : Session d}
    {p p' : d.Prepared} (h : s.fetch p = (.ok none, p', s')) :
    s.collect f p = (.ok [], (s'.close p').2) := by
  rw [collect]
  split <;> simp_all

/-- Reading goes on with the next row. -/
theorem collect_of_some {α : Type} {f : Row → Except Error α} {s s' : Session d}
    {p p' : d.Prepared} {row : Row} (h : s.fetch p = (.ok (some row), p', s')) :
    s.collect f p =
      match f row with
      | .error e => (.error e, (s'.close p').2)
      | .ok a => ((s'.collect f p').1.map (a :: ·), (s'.collect f p').2) := by
  rw [collect]
  split
  · simp_all
  · simp_all
  · rename_i found
    rw [h] at found
    cases found
    rfl

end Session

namespace Pairing

variable {d d' : Driver} (pairing : Pairing d d') {s : Session d} {s' : Session d'}
  {p : d.Prepared} {p' : d'.Prepared}

/-- A fetch on one side says what it is on the other. -/
theorem of_fetch (sessions : pairing.session s s') (reads : pairing.reading p p')
    {outcome : Except Error (Option Row)} {q : d.Prepared} {t : Session d}
    (h : s.fetch p = (outcome, q, t)) :
    ∃ q' t', s'.fetch p' = (outcome, q', t') ∧ pairing.reading q q' ∧ pairing.session t t' := by
  obtain ⟨same, reads, sessions⟩ := pairing.fetch sessions reads
  rw [h] at same reads sessions
  exact ⟨(s'.fetch p').2.1, (s'.fetch p').2.2, Prod.ext same.symm rfl, reads, sessions⟩

/-- Reading all rows gives the same. -/
theorem collect {α : Type} (f : Row → Except Error α) (sessions : pairing.session s s')
    (reads : pairing.reading p p') :
    (s.collect f p).1 = (s'.collect f p').1 ∧
      pairing.session (s.collect f p).2 (s'.collect f p').2 := by
  -- The induction is on the reading on one side; `of_fetch` says that the other side does the same.
  fun_induction Session.collect f s p generalizing s' p' with
  | case1 s p e q t failed =>
    obtain ⟨q', t', failed', reads, sessions⟩ := pairing.of_fetch sessions reads failed
    rw [Session.collect_of_error failed']
    exact ⟨rfl, pairing.close sessions reads⟩
  | case2 s p q t ended =>
    obtain ⟨q', t', ended', reads, sessions⟩ := pairing.of_fetch sessions reads ended
    rw [Session.collect_of_none ended']
    exact ⟨rfl, pairing.close sessions reads⟩
  | case3 s p row q t found e refused =>
    obtain ⟨q', t', found', reads, sessions⟩ := pairing.of_fetch sessions reads found
    rw [Session.collect_of_some found', refused]
    exact ⟨rfl, pairing.close sessions reads⟩
  | case4 s p row q t found a made rest t₁ later ih =>
    obtain ⟨q', t', found', reads, sessions⟩ := pairing.of_fetch sessions reads found
    obtain ⟨same, after⟩ := ih sessions reads
    rw [later] at same after
    rw [Session.collect_of_some found', made]
    exact ⟨congrArg (Except.map (a :: ·)) same, after⟩

/-! ## Exchanges -/

section Exchanges

variable {compiled : Compiled} (sessions : pairing.session s s') (runs : pairing.runs compiled)
  (logs : Bool)

include sessions runs

/-- A run on both sides fails with the same error or leaves corresponding statements. -/
theorem ran : (∃ e t t', s.run logs compiled = (.error e, t) ∧
      s'.run logs compiled = (.error e, t') ∧ pairing.session t t') ∨
    ∃ p p' t t', s.run logs compiled = (.ok p, t) ∧ s'.run logs compiled = (.ok p', t') ∧
      pairing.reading p p' ∧ pairing.session t t' := by
  obtain ⟨same, after⟩ := pairing.run sessions runs logs
  generalize s.run logs compiled = left at same after ⊢
  generalize s'.run logs compiled = right at same after ⊢
  obtain ⟨outcome, t⟩ := left
  obtain ⟨outcome', t'⟩ := right
  cases same with
  | error e => exact .inl ⟨e, t, t', rfl, rfl, after⟩
  | ok reads => exact .inr ⟨_, _, t, t', rfl, rfl, reads, after⟩

/-- All rows are read alike on paired sessions. -/
theorem fetchAll : (s.fetchAll logs compiled).1 = (s'.fetchAll logs compiled).1 ∧
    pairing.session (s.fetchAll logs compiled).2 (s'.fetchAll logs compiled).2 := by
  unfold Session.fetchAll
  rcases pairing.ran sessions runs logs with ⟨e, t, t', left, right, after⟩ |
    ⟨p, p', t, t', left, right, reads, after⟩
  · rw [left, right]
    exact ⟨rfl, after⟩
  · rw [left, right]
    exact pairing.collect .ok after reads

/-- An INSERT gives the same identifier on paired sessions, if it is one that generates them. -/
theorem insert (generates : pairing.generates compiled) :
    (s.insert logs compiled).1 = (s'.insert logs compiled).1 ∧
      pairing.session (s.insert logs compiled).2 (s'.insert logs compiled).2 := by
  unfold Session.insert
  rcases pairing.ran sessions runs logs with ⟨e, t, t', left, right, after⟩ |
    ⟨p, p', t, t', left, right, reads, after⟩
  · rw [left, right]
    exact ⟨rfl, after⟩
  · have identifier := pairing.identifier sessions runs generates left right
    rw [left, right]
    exact ⟨congrArg Except.ok identifier, pairing.close after reads⟩

/-- An UPDATE or a DELETE counts the same rows on paired sessions. -/
theorem affect : (s.affect logs compiled).1 = (s'.affect logs compiled).1 ∧
    pairing.session (s.affect logs compiled).2 (s'.affect logs compiled).2 := by
  unfold Session.affect
  rcases pairing.ran sessions runs logs with ⟨e, t, t', left, right, after⟩ |
    ⟨p, p', t, t', left, right, reads, after⟩
  · rw [left, right]
    exact ⟨rfl, after⟩
  · rw [left, right]
    exact ⟨congrArg Except.ok (pairing.rowCount reads), pairing.close after reads⟩

end Exchanges

/-! ## Iterators -/

/-- Corresponding iterators. -/
inductive Iterators : RowIterator d → RowIterator d' → Prop
  /-- Nothing was pulled yet. -/
  | pending {compiled : Compiled} (runs : pairing.runs compiled) (transform : Transform)
    (spread : Bool) :
    Iterators (.pending compiled transform spread) (.pending compiled transform spread)
  /-- The statements run. -/
  | reading {p : d.Prepared} {p' : d'.Prepared} (reads : pairing.reading p p')
    (transform : Transform) (spread : Bool) :
    Iterators (.reading p transform spread) (.reading p' transform spread)
  /-- There is nothing left to pull. -/
  | finished : Iterators .finished .finished

/-- Results that are the same and leave corresponding iterators and sessions. -/
structure Pulled {α : Type} (left : Except Error α × RowIterator d × Session d)
    (right : Except Error α × RowIterator d' × Session d') : Prop where
  /-- The outcomes are the same. -/
  outcome : left.1 = right.1
  /-- The iterators afterwards. -/
  iterators : pairing.Iterators left.2.1 right.2.1
  /-- The sessions afterwards. -/
  sessions : pairing.session left.2.2 right.2.2

variable {pairing}

/-- Pulling from a running statement gives the same. -/
theorem advance (sessions : pairing.session s s') (reads : pairing.reading p p')
    (transform : Transform) (spread : Bool) :
    pairing.Pulled (RowIterator.advance s p transform spread)
      (RowIterator.advance s' p' transform spread) := by
  rw [RowIterator.advance]
  split
  · rename_i e q t failed
    obtain ⟨q', t', failed', reads, sessions⟩ := pairing.of_fetch sessions reads failed
    rw [RowIterator.advance, failed']
    exact ⟨rfl, .finished, pairing.close sessions reads⟩
  · rename_i q t ended
    obtain ⟨q', t', ended', reads, sessions⟩ := pairing.of_fetch sessions reads ended
    rw [RowIterator.advance, ended']
    exact ⟨rfl, .finished, pairing.close sessions reads⟩
  · rename_i row q t found
    obtain ⟨q', t', found', reads, sessions⟩ := pairing.of_fetch sessions reads found
    rw [RowIterator.advance, found']
    cases made : row.through transform spread with
    | error e =>
      simp only [made]
      exact ⟨rfl, .finished, pairing.close sessions reads⟩
    | ok value =>
      simp only [made]
      exact ⟨rfl, .reading reads transform spread, sessions⟩

variable {it : RowIterator d} {it' : RowIterator d'}

/-- Paired iterators are pulled alike. -/
theorem Iterators.next (h : pairing.Iterators it it') (sessions : pairing.session s s')
    (logs : Bool) : pairing.Pulled (it.next logs s) (it'.next logs s') := by
  cases h with
  | pending runs transform spread =>
    unfold RowIterator.next
    rcases pairing.ran sessions runs logs with ⟨e, t, t', left, right, after⟩ |
      ⟨p, p', t, t', left, right, reads, after⟩
    · simp only [left, right]
      exact ⟨rfl, .finished, after⟩
    · simp only [left, right]
      exact advance after reads transform spread
  | reading reads transform spread => exact advance sessions reads transform spread
  | finished => exact ⟨rfl, .finished, sessions⟩

/-- Paired iterators are pulled to their end alike. -/
theorem Iterators.rest (h : pairing.Iterators it it') (sessions : pairing.session s s')
    (logs : Bool) : (it.rest logs s).1 = (it'.rest logs s').1 ∧
      pairing.session (it.rest logs s).2 (it'.rest logs s').2 := by
  cases h with
  | pending runs transform spread =>
    simp only [RowIterator.rest]
    rcases pairing.ran sessions runs logs with ⟨e, t, t', left, right, after⟩ |
      ⟨p, p', t, t', left, right, reads, after⟩
    · rw [left, right]
      exact ⟨rfl, after⟩
    · rw [left, right]
      exact pairing.collect _ after reads
  | reading reads transform spread => exact pairing.collect _ sessions reads
  | finished => exact ⟨rfl, sessions⟩

/-- Paired iterators are closed alike. -/
theorem Iterators.close (h : pairing.Iterators it it') (sessions : pairing.session s s') :
    pairing.session (it.close s) (it'.close s') := by
  cases h with
  | pending runs transform spread => exact sessions
  | reading reads transform spread => exact pairing.close sessions reads
  | finished => exact sessions

end Pairing

end SqlBuilder
