import SqlBuilder.Driver.Positional
import SqlBuilder.Proofs.Courses
import SqlBuilder.Proofs.EagerCalls

/-!
# Which failures are logged

An ERROR record says that a statement failed. There is one exactly if binding or executing failed in
this library's terms, and then it stands between the failing call and the closing of the statement,
with which the use ends. A failure of a fetch leaves in the same terms, but the statement is only
closed: it is the one way in which an error of the database reaches the caller without a record.
-/

set_option autoImplicit false

namespace SqlBuilder

open Sql (Compiled)

/-! ## Records -/

/-- The text of an ERROR record. -/
def Line.errorRecord? : Line → Option String
  | log .error message => some message
  | log .debug _ | call _ _ => none

/-- The texts of the ERROR records, in order. -/
def errorRecords (lines : List Line) : List String :=
  lines.filterMap Line.errorRecord?

/-- The records of lines in a row are those of the first ones and then those of the others. -/
@[simp] theorem errorRecords_append (before after : List Line) :
    errorRecords (before ++ after) = errorRecords before ++ errorRecords after :=
  List.filterMap_append

/-- A call is no record. -/
@[simp] theorem errorRecords_call (number : Nat) (x : Exchange) (rest : List Line) :
    errorRecords (.call number x :: rest) = errorRecords rest := rfl

/-- Calls are no records. -/
@[simp] theorem errorRecords_calls (number : Nat) (xs : List Exchange) :
    errorRecords (xs.map (Line.call number)) = [] := by
  induction xs with
  | nil => rfl
  | cons x rest ih => exact ih

/-- An announcement is logged at level DEBUG. -/
@[simp] theorem errorRecords_announcement {d : Driver} (logs : Bool) (compiled : Compiled) :
    errorRecords ((Session.announcement (d := d.watched) logs compiled).map Entry.line) = [] := by
  cases logs <;> rfl

open Exchange

/-- No fetch fails among smooth calls. -/
theorem Exchange.Smooth.fetch_notMem {xs : List Exchange} (h : Smooth xs) (number : Nat)
    (e : Error) : .call number (.fetch (.error e)) ∉ xs.map (Line.call number) := by
  intro member
  obtain ⟨x, member, same⟩ := List.mem_map.1 member
  obtain rfl : x = .fetch (.error e) := (Line.call.inj same).2
  cases h _ member

namespace Session

variable {d : Driver}

/-- What the lines of a statement say about the error that its use ends with. -/
structure Reported (raises : Error → Prop) (number : Nat) (compiled : Compiled)
    (lines : List Line) (error : Option Error) : Prop where
  /-- There is at most one ERROR record, that of the statement. -/
  single : errorRecords lines = [] ∨ errorRecords lines = [failureMessage compiled]
  /-- If there is one, the statement was prepared before, and binding or executing failed in this
  library's terms just before; it is closed just afterwards, and the use ends with this error. -/
  logged : errorRecords lines ≠ [] → ∃ before x e, lines = before ++ [.call number x,
      .log .error (failureMessage compiled), .call number .close] ∧
    .call number (.prepare compiled.sql) ∈ before ∧ x.refusal? = some e ∧
    e.isDriverError = true ∧ error = some e
  /-- If there is none, an error in this library's terms comes from a fetch, after which the
  statement is closed, or it is one that others raise. -/
  unlogged : errorRecords lines = [] → ∀ e, error = some e → e.isDriverError = true →
    (∃ before, lines = before ++ [.call number (.fetch (.error e)), .call number .close]) ∨ raises e
  /-- When a fetch fails, the use ends with its error, and there is no record. -/
  fetched : ∀ e, .call number (.fetch (.error e)) ∈ lines → error = some e ∧ errorRecords lines = []

variable {raises : Error → Prop} {number : Nat} {compiled : Compiled} {lines : List Line}
  {error : Option Error}

/-- Lines with no record and no failing fetch, after which no error of a database escapes. -/
theorem reported_of_silent (silent : errorRecords lines = [])
    (unfetched : ∀ e, .call number (.fetch (.error e)) ∉ lines)
    (foreign : ∀ e, error = some e → e.isDriverError = false) :
    Reported raises number compiled lines error := by
  refine ⟨.inl silent, fun some => absurd silent some, ?_,
    fun e member => absurd member (unfetched e)⟩
  intro _ e failed own
  rw [foreign e failed] at own
  cases own

/-- An announcement before its lines changes nothing in what they say. -/
theorem Reported.announced (h : Reported raises number compiled lines error) (logs : Bool) :
    Reported raises number compiled
      ((announcement (d := d.watched) logs compiled).map Entry.line ++ lines) error := by
  obtain ⟨single, logged, unlogged, fetched⟩ := h
  have same : errorRecords ((announcement (d := d.watched) logs compiled).map Entry.line ++ lines) =
      errorRecords lines := by
    rw [errorRecords_append, errorRecords_announcement, List.nil_append]
  refine ⟨same ▸ single, ?_, ?_, ?_⟩
  · rw [same]
    intro some
    obtain ⟨before, x, e, rfl, prepared, rest⟩ := logged some
    exact ⟨_ ++ before, x, e, (List.append_assoc _ _ _).symm, List.mem_append_right _ prepared,
      rest⟩
  · rw [same]
    intro none e failed own
    refine (unlogged none e failed own).imp_left ?_
    rintro ⟨before, rfl⟩
    exact ⟨_ ++ before, (List.append_assoc _ _ _).symm⟩
  · rw [same]
    intro e member
    refine fetched e ((List.mem_append.1 member).resolve_left ?_)
    cases logs with
    | false => exact List.not_mem_nil
    | true => exact fun started => by cases List.mem_singleton.1 started

/-- No fetch fails among the smooth calls after a preparation. -/
theorem fetch_notMem_prepare {xs : List Exchange} (smooth : Smooth xs) (e : Error) :
    .call number (.fetch (.error e)) ∉
      .call number (.prepare compiled.sql) :: xs.map (Line.call number) := by
  intro member
  rcases List.mem_cons.1 member with same | later
  · cases same
  · exact smooth.fetch_notMem number e later

/-- The end of a statement that was executed leaves no ERROR record. -/
theorem reported_of_ending {xs : List Exchange} (h : Ending raises xs error) :
    Reported raises number compiled (xs.map (.call number)) error := by
  have silent : errorRecords (xs.map (Line.call number)) = [] := errorRecords_calls number xs
  refine ⟨.inl silent, fun some => absurd silent some, ?_, ?_⟩
  · rintro - e rfl own
    cases h with
    | closed smooth raised => exact .inr (raised e rfl own)
    | @broken xs smooth e =>
      refine .inl ⟨xs.map (.call number), ?_⟩
      rw [List.map_append]
      rfl
  · intro e member
    refine ⟨?_, silent⟩
    cases h with
    | closed smooth raised =>
      rw [List.map_append] at member
      rcases List.mem_append.1 member with early | late
      · exact absurd early (smooth.fetch_notMem number e)
      · cases List.mem_singleton.1 late
    | broken smooth e' =>
      rw [List.map_append] at member
      rcases List.mem_append.1 member with early | late
      · exact absurd early (smooth.fetch_notMem number e)
      · rcases List.mem_pair.1 late with same | same
        · cases same
          rfl
        · cases same

/-- The lines of a statement say which error its use ends with. -/
theorem Course.reported (h : Course raises number compiled lines error) :
    Reported raises number compiled lines error := by
  cases h with
  | @ended xs error ending =>
    have prepares : Smooth [.prepare compiled.sql] := smooth_nil.cons rfl
    exact reported_of_ending (ending.after prepares)
  | @logged xs smooth x e refuses own =>
    -- The one record is that of the failure, which was no fetch: nothing was fetched yet.
    have records : errorRecords (.call number (.prepare compiled.sql) ::
        xs.map (Line.call number) ++ [.call number x, .log .error (failureMessage compiled),
          .call number .close]) = [failureMessage compiled] := by
      rw [errorRecords_append, errorRecords_call, errorRecords_calls]
      rfl
    refine ⟨.inr records, ?_, ?_, ?_⟩
    · intro _
      exact ⟨_, x, e, rfl, List.mem_cons_self, refuses, own, rfl⟩
    · intro none
      rw [records] at none
      cases none
    · intro e' member
      rcases List.mem_append.1 member with early | late
      · exact absurd early (fetch_notMem_prepare smooth e')
      · rcases List.mem_cons.1 late with same | last
        · rw [← (Line.call.inj same).2] at refuses
          cases refuses
        · rcases List.mem_pair.1 last with same | same <;> cases same
  | @abandoned xs smooth x e refuses foreign =>
    have records : errorRecords (.call number (.prepare compiled.sql) ::
        xs.map (Line.call number) ++ [.call number x]) = [] := by
      rw [errorRecords_append, errorRecords_call, errorRecords_calls]
      rfl
    refine reported_of_silent records ?_ fun e' same => Option.some.inj same ▸ foreign
    intro e' member
    rcases List.mem_append.1 member with early | late
    · exact absurd early (fetch_notMem_prepare smooth e')
    · rw [← (Line.call.inj (List.mem_singleton.1 late)).2] at refuses
      cases refuses

/-- An error in this library's terms leaves exactly if there is an ERROR record, or a fetch failed
with it, or others raised it. -/
theorem Reported.escapes (h : Reported raises number compiled lines error) :
    (∃ e, error = some e ∧ e.isDriverError = true) ↔
      errorRecords lines = [failureMessage compiled] ∨ ∃ e, e.isDriverError = true ∧
        (.call number (.fetch (.error e)) ∈ lines ∨ raises e ∧ error = some e) := by
  constructor
  · rintro ⟨e, failed, own⟩
    rcases h.single with none | one
    · refine .inr ⟨e, own, (h.unlogged none e failed own).imp ?_ fun raised => ⟨raised, failed⟩⟩
      rintro ⟨before, rfl⟩
      exact List.mem_append_right before List.mem_cons_self
    · exact .inl one
  · rintro (one | ⟨e, own, fetch | raised⟩)
    · obtain ⟨before, x, e, -, -, -, own, failed⟩ :=
        h.logged (by rw [one]; exact List.cons_ne_nil _ _)
      exact ⟨e, failed, own⟩
    · exact ⟨e, (h.fetched e fetch).1, own⟩
    · exact ⟨e, raised.2, own⟩

end Session

/-! ## Statements that do not run -/

/-- A result that is not the failure of a database. -/
def Offline {α : Type} (outcome : Except Error α) : Prop :=
  ∀ e, outcome = .error e → e.isDriverError = false

section Offline

variable {α β : Type}

/-- A success is not the failure of a database. -/
theorem offline_ok (a : α) : Offline (.ok a) :=
  fun _ h => by cases h

/-- An error in other terms than this library's is not the failure of a database. -/
theorem offline_error {e : Error} (h : e.isDriverError = false) :
    Offline (.error e : Except Error α) :=
  fun _ same => Except.error.inj same ▸ h

/-- Two things in a row are offline if both are. -/
theorem Offline.bind {outcome : Except Error α} (h : Offline outcome) {f : α → Except Error β}
    (later : ∀ a, Offline (f a)) : Offline (outcome.bind f) := by
  cases outcome with
  | error e => exact offline_error (h e rfl)
  | ok a => exact later a

/-- Changing a result leaves it offline. -/
theorem Offline.map {outcome : Except Error α} (h : Offline outcome) (f : α → β) :
    Offline (outcome.map f) := by
  cases outcome with
  | error e => exact offline_error (h e rfl)
  | ok a => exact offline_ok (f a)

end Offline

/-- Joining texts does not reach a database. -/
theorem offline_joinTexts (items : List Value) : Offline (joinTexts items) := by
  unfold joinTexts
  split
  · exact offline_ok _
  · exact offline_error rfl

/-- Making a list of bytes does not reach a database. -/
theorem offline_listSize (n : Int) : Offline (listSize n) := by
  unfold listSize
  split
  · exact offline_error rfl
  · split
    · exact offline_error rfl
    · exact offline_ok _

/-- A value without a text is no failure of the database. -/
theorem offline_requireWritable (shown : List Value) : Offline (Value.requireWritable shown) := by
  unfold Value.requireWritable
  split
  · exact offline_ok _
  · exact offline_error rfl

/-- An iteration that fails is no failure of the database. -/
theorem offline_yielded (v : Value) : Offline v.yielded.2 := by
  unfold Value.yielded
  split
  · split
    · exact offline_ok _
    · rename_i failed
      exact offline_error (offline_listSize _ _ failed)
  · exact offline_error rfl
  · split
    · exact offline_ok _
    · exact offline_error rfl

namespace State

variable (s : State)

/-- Asking for the source does not reach a database. -/
theorem offline_requireSource (operation : String) : Offline (s.requireSource operation) := by
  unfold requireSource
  split
  · exact offline_ok _
  · exact offline_error rfl

/-- Asking for the table of a mutation does not reach a database. -/
theorem offline_requireTable (mutation : Mutation) : Offline (s.requireTable mutation) := by
  apply (s.offline_requireSource mutation.name).bind
  intro source
  split
  · exact offline_error rfl
  · exact offline_ok _

/-- Checking the data of a mutation does not reach a database. -/
theorem offline_requireData (mutation : Mutation) (data : Value) :
    Offline (requireData mutation data) := by
  unfold requireData
  split
  · exact offline_ok _
  · exact offline_error rfl

/-- Writing the columns does not reach a database. -/
theorem offline_columnsText : Offline s.columnsText := by
  unfold columnsText
  split
  · exact offline_ok _
  · exact offline_joinTexts _

/-- Writing GROUP BY does not reach a database. -/
theorem offline_groupText : Offline s.groupText := by
  unfold groupText
  split
  · exact offline_ok _
  · exact (offline_joinTexts _).map _

/-- Compiling a SELECT does not reach a database. -/
theorem offline_compile : Offline s.compile := by
  apply Offline.map
  apply (s.offline_requireSource "select").bind
  intro source
  apply s.offline_columnsText.bind
  intro columns
  apply s.offline_groupText.bind
  intro groups
  apply (offline_requireWritable _).bind
  intro _
  exact offline_ok _

/-- Compiling an INSERT does not reach a database. -/
theorem offline_compileInsert (data : Value) : Offline (s.compileInsert data) := by
  apply (s.offline_requireTable .insert).bind
  intro source
  apply (offline_requireData .insert data).bind
  intro data
  split
  · exact offline_error rfl
  · apply (offline_joinTexts _).bind
    intro columns
    exact offline_ok _

/-- Compiling an UPDATE does not reach a database. -/
theorem offline_compileUpdate (data : Value) : Offline (s.compileUpdate data) := by
  apply (s.offline_requireTable .update).bind
  intro source
  apply (offline_requireData .update data).bind
  intro data
  split
  · apply (offline_requireWritable _).bind
    intro _
    exact offline_ok _
  · apply (offline_requireWritable _).bind
    intro _
    apply (offline_yielded _).bind
    intro _
    exact offline_error rfl

/-- Compiling a DELETE does not reach a database. -/
theorem offline_compileDelete : Offline s.compileDelete := by
  apply (s.offline_requireTable .delete).bind
  intro source
  exact offline_ok _

end State

/-- Compiling for an eager call does not reach a database. -/
theorem EagerCall.offline_compile (call : EagerCall) (s : State) : Offline (call.compile s) := by
  cases call with
  | get => exact s.offline_compile
  | first => exact (EagerCall.first.target s).offline_compile
  | insert data => exact s.offline_compileInsert data.toValue
  | update data => exact s.offline_compileUpdate data.toValue
  | delete => exact s.offline_compileDelete

/-! ## Calls and pulls -/

namespace Session

variable {d : Driver}

/-- What is added between two moments in which a statement is used, and what it says about the error
that the use ends with. An error in this library's terms escapes exactly if there is an ERROR
record, or a fetch failed, or others raised it. -/
def Tells (raises : Error → Prop) (compiled : Compiled) (s s' : Session d.watched)
    (error : Option Error) : Prop :=
  ∃ added, s'.lines = s.lines ++ added ∧ Reported raises s.prepares compiled added error ∧
    ((∃ e, error = some e ∧ e.isDriverError = true) ↔
      errorRecords added = [failureMessage compiled] ∨ ∃ e, e.isDriverError = true ∧
        (.call s.prepares (.fetch (.error e)) ∈ added ∨ raises e ∧ error = some e))

variable {raises : Error → Prop} {logs : Bool} {compiled : Compiled} {s s' : Session d.watched}

/-- A use of one statement tells which error it ends with. -/
theorem Uses.tells {error : Option Error} (h : Uses raises logs compiled s s' error) :
    Tells raises compiled s s' error := by
  obtain ⟨-, lines, added, course⟩ := h
  have reported := course.reported.announced (d := d) logs
  exact ⟨_, added.trans (List.append_assoc _ _ _), reported, reported.escapes⟩

/-- A statement that runs on has nothing to tell. -/
theorem Opens.tells (h : Opens logs compiled s s') : Tells raises compiled s s' none := by
  obtain ⟨-, xs, smooth, added⟩ := h
  have silent : Reported raises s.prepares compiled
      (.call s.prepares (.prepare compiled.sql) :: xs.map (Line.call s.prepares)) none :=
    reported_of_silent (errorRecords_calls s.prepares xs) (fetch_notMem_prepare smooth)
      fun e absent => by cases absent
  have reported := silent.announced (d := d) logs
  exact ⟨_, added.trans (List.append_assoc _ _ _), reported, reported.escapes⟩

end Session

/-- A pull on a running statement adds no ERROR record. An error in this library's terms comes from
its fetch, or the transform raises it. -/
theorem Session.Pulls.escapes {d : Driver} {number : Nat} {transform : Transform} {spread : Bool}
    {lines : List Line} {outcome : Except Error Value} {it : RowIterator d.watched}
    (h : Pulls d number transform spread lines outcome it) :
    errorRecords lines = [] ∧ ∀ e, e.isDriverError = true →
      (outcome = .error e ↔
        lines = [.call number (.fetch (.error e)), .call number .close] ∨
          RowIterator.Raises transform spread e ∧ outcome = .error e) := by
  cases h with
  | value p makes =>
    refine ⟨rfl, fun e own => ⟨?_, ?_⟩⟩
    · intro failed
      cases failed
    · rintro (lines | ⟨-, failed⟩)
      · cases lines
      · exact failed
  | ended =>
    refine ⟨rfl, fun e own => ⟨?_, ?_⟩⟩
    · intro failed
      rw [← Except.error.inj failed] at own
      cases own
    · rintro (lines | ⟨-, failed⟩)
      · cases lines
      · exact failed
  | broken e' =>
    refine ⟨rfl, fun e own => ⟨?_, ?_⟩⟩
    · intro failed
      exact .inl (by rw [Except.error.inj failed])
    · rintro (lines | ⟨-, failed⟩)
      · cases lines
        rfl
      · exact failed
  | @refused row e' refuses =>
    refine ⟨rfl, fun e own => ⟨?_, ?_⟩⟩
    · intro failed
      exact .inr ⟨⟨row, refuses.trans failed⟩, failed⟩
    · rintro (lines | ⟨-, failed⟩)
      · cases lines
      · exact failed

/-- What an eager call does to a session once it is compiled is a use of one statement, and ends
with the error that the call gives. -/
theorem EagerCall.uses_exchange {d : Driver} (call : EagerCall) (s : Session d.watched)
    (logs : Bool) (compiled : Compiled) :
    Session.Uses (fun _ => False) logs compiled s (call.exchange s logs compiled).2
      (failureOf (call.exchange s logs compiled).1) := by
  cases call with
  | get | first =>
    have uses := Session.uses_fetchAll s logs compiled fun _ => False
    simpa only [exchange, failureOf_map] using uses
  | insert data =>
    have uses := Session.uses_insert s logs compiled fun _ => False
    simpa only [exchange, failureOf_map] using uses
  | update data | delete =>
    have uses := Session.uses_affect s logs compiled fun _ => False
    simpa only [exchange, failureOf_map] using uses

/-- Which failures are logged, whatever a driver does and whatever is logged besides.

A call that runs at once, and the first pull on an iterator, add at most one ERROR record. It is the
one of the compiled text, after its preparation and right after binding or executing failed; then
the statement is closed and the error escapes. An error in this library's terms that escapes without
a record comes from a fetch, or from the transform of the iterator. Later pulls add no record at
all, and neither do calls that do not compile or have no session, nor pulls on finished iterators;
none of these fails as a database does. All this is the same when the driver is not watched. -/
theorem failures_logged_unless_fetched (d : Driver) :
    (∀ (call : EagerCall) (st : Statement d.watched),
      (∀ compiled s, call.compile st.state = .ok compiled → st.session = some s →
        ∃ s', (call.toCall.run st).2.session = some s' ∧
          Session.Tells (fun _ => False) compiled s s' (failureOf (call.toCall.run st).1)) ∧
      ((∃ e, call.compile st.state = .error e) ∨ st.session = none →
        (call.toCall.run st).2.session = st.session ∧ Offline (call.toCall.run st).1) ∧
      call.toCall.run st.unwatched =
        ((call.toCall.run st).1, (call.toCall.run st).2.unwatched)) ∧
    ∀ (transform : Transform) (spread logs : Bool) (s : Session d.watched),
      (∀ compiled, Session.Tells (RowIterator.Raises transform spread) compiled s
        ((RowIterator.pending compiled transform spread).next logs s).2.2
        (failureOf ((RowIterator.pending compiled transform spread).next logs s).1)) ∧
      (∀ p, ∃ added,
        Session.Adds added s ((RowIterator.reading p transform spread).next logs s).2.2 ∧
        errorRecords added = [] ∧ ∀ e, e.isDriverError = true →
          (((RowIterator.reading p transform spread).next logs s).1 = .error e ↔
            added = [.call p.2 (.fetch (.error e)), .call p.2 .close] ∨
              RowIterator.Raises transform spread e ∧
                ((RowIterator.reading p transform spread).next logs s).1 = .error e)) ∧
      (((RowIterator.finished : RowIterator d.watched).next logs s).2.2 = s ∧
        Offline ((RowIterator.finished : RowIterator d.watched).next logs s).1) ∧
      ∀ it, (d.watchedCover.iterator it).next logs (d.watchedCover.session s) =
        ((it.next logs s).1, d.watchedCover.iterator (it.next logs s).2.1,
          d.watchedCover.session (it.next logs s).2.2) := by
  refine ⟨?_, ?_⟩
  · intro call st
    have same := call.run_unwatched st
    rw [call.run_toCall st] at same ⊢
    refine ⟨?_, ?_, same⟩
    · intro compiled s compiles present
      rw [compiles]
      unfold Statement.running
      rw [present]
      exact ⟨_, rfl, (call.uses_exchange s _ compiled).tells⟩
    · intro idle
      unfold Statement.running
      cases compiles : call.compile st.state with
      | error e => exact ⟨rfl, offline_error (call.offline_compile st.state e compiles)⟩
      | ok compiled =>
        have absent : st.session = none := by
          refine idle.resolve_left ?_
          rintro ⟨e, failed⟩
          rw [compiles] at failed
          cases failed
        rw [absent]
        exact ⟨rfl, offline_error rfl⟩
  · intro transform spread logs s
    refine ⟨?_, ?_, ⟨rfl, offline_error rfl⟩, fun it => d.watchedCover.iterator_next it logs s⟩
    · intro compiled
      rcases RowIterator.next_pending compiled transform spread logs s with
        ⟨v, p, s', pulled, opens⟩ | ⟨e, s', pulled, uses⟩
      · rw [pulled]
        exact opens.tells
      · rw [pulled]
        exact uses.tells
    · intro p
      obtain ⟨added, adds, pulls⟩ := Session.advance_watched s p transform spread
      exact ⟨added, adds, pulls.escapes⟩

/-- A statement on a table, on a connection with one reply to give. -/
def readerOf (reply : Reply) : Statement Positional.driver.watched :=
  let connection : Connection := { script := [reply] }
  { state := { source := some { sql := .text "t", table := .text "t", aliasName := .text "t" } }
    session := some { connection := (connection, 0) } }

/-- A failure of the execution is logged, right after the execution and right before closing. -/
theorem failures_logged_unless_fetched_locked :
    let st := readerOf { failure := some ⟨.operational, "database is locked"⟩ }
    ∃ s' before x e, (EagerCall.get.toCall.run st).2.session = some s' ∧
      s'.lines = before ++ [.call 0 x, .log .error "Statement failed: SELECT * FROM t",
        .call 0 .close] ∧
      .call 0 (.prepare "SELECT * FROM t") ∈ before ∧ x.refusal? = some e ∧
      e.isDriverError = true ∧ (EagerCall.get.toCall.run st).1 = .error e := by
  intro st
  have sql : (EagerCall.get.compile st.state).toOption.map Compiled.sql =
      some "SELECT * FROM t" := by decide +kernel
  have records : (EagerCall.get.toCall.run st).2.session.map (fun s => errorRecords s.lines) =
      some ["Statement failed: SELECT * FROM t"] := by decide +kernel
  cases compiles : EagerCall.get.compile st.state with
  | error e =>
    rw [compiles] at sql
    cases sql
  | ok compiled =>
    rw [compiles] at sql
    have sql : compiled.sql = "SELECT * FROM t" := Option.some.inj sql
    have tells :=
      ((failures_logged_unless_fetched Positional.driver).1 .get st).1 compiled _ compiles rfl
    generalize EagerCall.get.toCall.run st = result at records tells ⊢
    obtain ⟨s', after, added, lines, reported, -⟩ := tells
    rw [after] at records
    have records : errorRecords s'.lines = _ := Option.some.inj records
    have whole : s'.lines = added := lines
    have recorded : errorRecords added ≠ [] := by
      rw [← whole, records]
      exact List.cons_ne_nil _ _
    have message : Session.failureMessage compiled = "Statement failed: SELECT * FROM t" :=
      (congrArg ("Statement failed: " ++ ·) sql).trans (by decide +kernel)
    obtain ⟨before, x, e, ends, prepared, refuses, own, failed⟩ := reported.logged recorded
    rw [message] at ends
    rw [sql] at prepared
    exact ⟨s', before, x, e, after, whole.trans ends, prepared, refuses, own,
      failureOf_eq_some.1 failed⟩

/-- A failure of the second fetch is not: the error escapes, and there is no ERROR record. -/
theorem fetch_failure_unlogged :
    let st := readerOf { columns := some ["a"], rows := [[.int 1]],
                         fetchFailure := some (1, ⟨.operational, "disk I/O error"⟩) }
    (failureOf st.get.1).map Error.isDriverError = some true ∧
      st.get.2.session.map (fun s => errorRecords s.lines) = some [] := by
  decide +kernel

end SqlBuilder
