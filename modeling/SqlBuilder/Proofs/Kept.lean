import SqlBuilder.Proofs.Effects

/-!
# What every call on the driver keeps

A property of sessions that every single call on the driver keeps, and every log record, is kept by
everything that is made of such calls: running a statement, reading its rows, pulls on iterators,
all methods with their callbacks, and the steps of a workspace. Prepared statements may have to fit
for this, and so may the texts that they are prepared from; then calls keep prepared statements
fitting too.
-/

set_option autoImplicit false

namespace SqlBuilder

open Sql (Compiled)

variable {d : Driver}

/-- A property of sessions that is kept by log records and by the calls on prepared statements that
fit, and those that are prepared from some texts fit. -/
structure Session.Kept (texts : String → Prop) (fits : d.Prepared → Prop)
    (holds : Session d → Prop) : Prop where
  /-- Log records keep it. -/
  log : ∀ {s}, holds s → ∀ level message, holds (s.log level message)
  /-- Preparing one of the texts keeps it. -/
  prepare : ∀ {s}, holds s → ∀ {sql}, texts sql →
    fits (s.prepare sql).1 ∧ holds (s.prepare sql).2
  /-- Binding keeps it. -/
  bind : ∀ {s}, holds s → ∀ {p}, fits p → ∀ position value tag,
    fits (s.bind p position value tag).2.1 ∧ holds (s.bind p position value tag).2.2
  /-- Executing keeps it. -/
  execute : ∀ {s}, holds s → ∀ {p}, fits p →
    fits (s.execute p).2.1 ∧ holds (s.execute p).2.2
  /-- Asking for a row keeps it. -/
  fetch : ∀ {s}, holds s → ∀ {p}, fits p → fits (s.fetch p).2.1 ∧ holds (s.fetch p).2.2
  /-- Closing keeps it. -/
  close : ∀ {s}, holds s → ∀ {p}, fits p → fits (s.close p).1 ∧ holds (s.close p).2

variable {texts : String → Prop} {fits : d.Prepared → Prop} {holds : Session d → Prop}

/-- An iterator whose statement fits, or whose text does. -/
def RowIterator.Fits (texts : String → Prop) (fits : d.Prepared → Prop) : RowIterator d → Prop
  | pending compiled _ _ => texts compiled.sql
  | reading p _ _ => fits p
  | finished => True

namespace Session.Kept

variable (kept : Session.Kept texts fits holds) {s : Session d} (h : holds s)

include kept h

/-! ## Exchanges -/

/-- Announcing compiled SQL keeps the property. -/
theorem announce (logs : Bool) (compiled : Compiled) : holds (s.announce logs compiled) := by
  cases logs with
  | false => exact h
  | true => exact kept.log h _ _

/-- Binding values one after another keeps the property, and the statement fits afterwards. -/
theorem bindFrom {p : d.Prepared} (fit : fits p) (position : Nat) (values : List Value) :
    fits (s.bindFrom p position values).2.1 ∧ holds (s.bindFrom p position values).2.2 := by
  induction values generalizing s p position with
  | nil => exact ⟨fit, h⟩
  | cons value rest ih =>
    have after := kept.bind h fit position value value.tag
    rw [Session.bindFrom]
    generalize s.bind p position value value.tag = bound at after ⊢
    obtain ⟨outcome, p₁, s₁⟩ := bound
    cases outcome with
    | error e => exact after
    | ok done => exact ih after.2 after.1 (position + 1)

/-- Binding the values and executing keeps the property, and the statement fits afterwards. -/
theorem launch {p : d.Prepared} (fit : fits p) (values : List Value) :
    fits (s.launch p values).2.1 ∧ holds (s.launch p values).2.2 := by
  have after := kept.bindFrom h fit 0 values
  rw [Session.launch]
  generalize s.bindFrom p 0 values = bound at after ⊢
  obtain ⟨outcome, p₁, s₁⟩ := bound
  cases outcome with
  | error e => exact after
  | ok done => exact kept.execute after.2 after.1

/-- Running compiled SQL keeps the property, and a statement that runs fits. -/
theorem run (logs : Bool) {compiled : Compiled} (text : texts compiled.sql) :
    (∀ p, (s.run logs compiled).1 = .ok p → fits p) ∧ holds (s.run logs compiled).2 := by
  have prepared := kept.prepare (kept.announce h logs compiled) text
  have launched := kept.launch prepared.2 prepared.1 compiled.params
  rw [Session.run]
  generalize (s.announce logs compiled).prepare compiled.sql = made at launched ⊢
  obtain ⟨p₁, s₁⟩ := made
  dsimp only at launched ⊢
  generalize s₁.launch p₁ compiled.params = result at launched ⊢
  obtain ⟨outcome, p₂, s₂⟩ := result
  cases outcome with
  | error e =>
    have closed := kept.close (kept.log launched.2 .error (failureMessage compiled)) launched.1
    dsimp only
    split
    · exact ⟨fun p same => (by cases same), closed.2⟩
    · exact ⟨fun p same => (by cases same), launched.2⟩
  | ok done =>
    dsimp only
    split
    · exact ⟨fun p same => Except.ok.inj same ▸ launched.1, launched.2⟩
    · exact ⟨fun p same => (by cases same), (kept.close launched.2 launched.1).2⟩

/-- Reading all rows of a statement that fits keeps the property. -/
theorem collect {α : Type} (f : Row → Except Error α) {p : d.Prepared} (fit : fits p) :
    holds (s.collect f p).2 := by
  have fetched {s s' : Session d} {p p' : d.Prepared} {outcome : Except Error (Option Row)}
      (h : holds s) (fit : fits p) (asked : s.fetch p = (outcome, p', s')) :
      fits p' ∧ holds s' := by
    have after := kept.fetch h fit
    rwa [asked] at after
  fun_induction Session.collect f s p with
  | case1 s p e p' s' failed =>
    obtain ⟨fit, h⟩ := fetched h fit failed
    exact (kept.close h fit).2
  | case2 s p p' s' ended =>
    obtain ⟨fit, h⟩ := fetched h fit ended
    exact (kept.close h fit).2
  | case3 s p row p' s' found e refuses =>
    obtain ⟨fit, h⟩ := fetched h fit found
    exact (kept.close h fit).2
  | case4 s p row p' s' found a makes rest s'' later ih =>
    obtain ⟨fit, h⟩ := fetched h fit found
    rw [later] at ih
    exact ih h fit

section Runs

variable (logs : Bool) {compiled : Compiled} (text : texts compiled.sql)

include text

/-- Reading all rows of compiled SQL keeps the property. -/
theorem fetchAll : holds (s.fetchAll logs compiled).2 := by
  have after := kept.run h logs text
  rw [Session.fetchAll]
  generalize s.run logs compiled = result at after ⊢
  obtain ⟨outcome, t⟩ := result
  cases outcome with
  | error e => exact after.2
  | ok p => exact kept.collect after.2 .ok (after.1 p rfl)

/-- Inserting keeps the property. -/
theorem insert : holds (s.insert logs compiled).2 := by
  have after := kept.run h logs text
  rw [Session.insert]
  generalize s.run logs compiled = result at after ⊢
  obtain ⟨outcome, t⟩ := result
  cases outcome with
  | error e => exact after.2
  | ok p => exact (kept.close after.2 (after.1 p rfl)).2

/-- An UPDATE or a DELETE keeps the property. -/
theorem affect : holds (s.affect logs compiled).2 := by
  have after := kept.run h logs text
  rw [Session.affect]
  generalize s.run logs compiled = result at after ⊢
  obtain ⟨outcome, t⟩ := result
  cases outcome with
  | error e => exact after.2
  | ok p => exact (kept.close after.2 (after.1 p rfl)).2

end Runs

/-! ## Iterators -/

/-- A pull on a statement that fits keeps the property, and leaves an iterator that fits. -/
theorem advance {p : d.Prepared} (fit : fits p) (transform : Transform) (spread : Bool) :
    (RowIterator.advance s p transform spread).2.1.Fits texts fits ∧
      holds (RowIterator.advance s p transform spread).2.2 := by
  have after := kept.fetch h fit
  rw [RowIterator.advance]
  generalize s.fetch p = result at after ⊢
  obtain ⟨outcome, p₁, s₁⟩ := result
  have closed := kept.close after.2 after.1
  cases outcome with
  | error e => exact ⟨trivial, closed.2⟩
  | ok found =>
    cases found with
    | none => exact ⟨trivial, closed.2⟩
    | some row =>
      dsimp only
      split
      · exact ⟨trivial, closed.2⟩
      · exact after

/-- Pulling an iterator that fits keeps the property, and leaves one that fits. -/
theorem next {it : RowIterator d} (fit : it.Fits texts fits) (logs : Bool) :
    (it.next logs s).2.1.Fits texts fits ∧ holds (it.next logs s).2.2 := by
  cases it with
  | finished => exact ⟨trivial, h⟩
  | reading p transform spread => exact kept.advance h fit transform spread
  | pending compiled transform spread =>
    -- The first pull prepares a statement, which fits because its text does.
    have after := kept.run h logs fit
    simp only [RowIterator.next]
    generalize s.run logs compiled = result at after ⊢
    obtain ⟨outcome, t⟩ := result
    cases outcome with
    | error e => exact ⟨trivial, after.2⟩
    | ok p => exact kept.advance after.2 (after.1 p rfl) transform spread

/-- Pulling an iterator that fits to its end keeps the property. -/
theorem rest {it : RowIterator d} (fit : it.Fits texts fits) (logs : Bool) :
    holds (it.rest logs s).2 := by
  cases it with
  | finished => exact h
  | reading p transform spread => exact kept.collect h _ fit
  | pending compiled transform spread =>
    have after := kept.run h logs fit
    simp only [RowIterator.rest]
    generalize s.run logs compiled = result at after ⊢
    obtain ⟨outcome, t⟩ := result
    cases outcome with
    | error e => exact after.2
    | ok p => exact kept.collect after.2 _ (after.1 p rfl)

/-- Closing an iterator that fits keeps the property. -/
theorem stop {it : RowIterator d} (fit : it.Fits texts fits) : holds (it.close s) := by
  cases it with
  | finished | pending compiled transform spread => exact h
  | reading p transform spread => exact (kept.close h fit).2

/-- Whatever is done with an iterator that fits keeps the property, and leaves one that fits. -/
theorem used {it it' : RowIterator d} {s' : Session d} (fit : it.Fits texts fits) {logs : Bool}
    (used : it.Used logs s it' s') : it'.Fits texts fits ∧ holds s' := by
  cases used with
  | next => exact kept.next h fit logs
  | rest => exact ⟨trivial, kept.rest h fit logs⟩
  | stop => exact ⟨trivial, kept.stop h fit⟩

/-- Whatever is done by hand with a statement that fits keeps the property, and leaves one that
fits. -/
theorem byHand {p p' : d.Prepared} {s' : Session d} (fit : fits p) (byHand : s.ByHand p p' s') :
    fits p' ∧ holds s' := by
  cases byHand with
  | bind position value tag => exact kept.bind h fit position value tag
  | execute => exact kept.execute h fit
  | fetch => exact kept.fetch h fit
  | close => exact kept.close h fit
  | read => exact ⟨fit, h⟩

end Session.Kept

/-! ## Calls and steps -/

/-- Calls keep a property that prepared statements for all texts keep. -/
theorem Session.Kept.chained (kept : Session.Kept (fun _ => True) fits holds) :
    Session.Chained fun s s' => holds s → holds s' where
  refl _ h := h
  trans first second h := second (first h)
  fetchAll _ logs _ h := kept.fetchAll h logs trivial
  insert _ logs _ h := kept.insert h logs trivial
  affect _ logs _ h := kept.affect h logs trivial

namespace Workspace

/-- A workspace with a session that has a property, where prepared statements fit. -/
structure Fit (fits : d.Prepared → Prop) (holds : Session d → Prop) (w : Workspace d) : Prop where
  /-- The session. -/
  session : ∃ s, w.statement.session = some s ∧ holds s
  /-- The iterators. -/
  iterators : ∀ it ∈ w.iterators, it.Fits (fun _ => True) fits
  /-- The prepared statements. -/
  handles : ∀ p ∈ w.handles, fits p

/-- Every effect keeps a property that prepared statements for all texts keep. -/
theorem Fit.effect (kept : Session.Kept (fun _ => True) fits holds) {w w' : Workspace d}
    (effect : w.Effect w') (h : w.Fit fits holds) : w'.Fit fits holds := by
  obtain ⟨⟨s, found, holding⟩, iterators, handles⟩ := h
  have same {s' : Session d} (present : w.statement.session = some s') : s' = s :=
    Option.some.inj (present.symm.trans found)
  cases effect with
  | none | renewed | unsent entries => exact ⟨⟨s, found, holding⟩, iterators, handles⟩
  | called call =>
    obtain ⟨s', after, leads⟩ := call.leads_run kept.chained w.statement s found
    exact ⟨⟨s', after, leads holding⟩, iterators, handles⟩
  | @morphed compiled compiles transform spread =>
    have new : ∀ it ∈ [RowIterator.pending compiled transform spread],
        it.Fits (fun _ => True) fits := List.forall_mem_singleton.2 trivial
    exact ⟨⟨s, found, holding⟩, List.forall_mem_append.2 ⟨iterators, new⟩, handles⟩
  | @iterated index it it' _ s' place present used =>
    obtain rfl := same present
    obtain ⟨fit, after⟩ := kept.used holding (iterators it (List.mem_of_getElem? place)) used
    exact ⟨⟨s', rfl, after⟩, forall_mem_set iterators index fit, handles⟩
  | prepared present sql =>
    obtain rfl := same present
    obtain ⟨fit, after⟩ := kept.prepare holding trivial
    have new := List.forall_mem_singleton.2 fit
    exact ⟨⟨_, rfl, after⟩, iterators, List.forall_mem_append.2 ⟨handles, new⟩⟩
  | @handled index p p' _ s' place present byHand =>
    obtain rfl := same present
    obtain ⟨fit, after⟩ := kept.byHand holding (handles p (List.mem_of_getElem? place)) byHand
    exact ⟨⟨s', rfl, after⟩, iterators, forall_mem_set handles index fit⟩
  | ran present exchanged =>
    obtain rfl := same present
    exact ⟨⟨_, rfl, exchanged.leads kept.chained holding⟩, iterators, handles⟩

end Workspace

end SqlBuilder
