import SqlBuilder.Proofs.InsertTexts
import SqlBuilder.Proofs.Kept

/-!
# What a scripted database was asked

Both adapters reach the database by executing, and in no other way: one text goes there, one reply
comes back. So a journal says which texts were executed, and the script says what came back for
each; together they determine the connection (`Serving.kept_served`), and with it the identifier
that was recorded last (`Connection.lastInsertId_served`). The adapters differ in the texts for
which they record one: the positional driver does for all, the driver with named binds for those
that insert.
-/

set_option autoImplicit false

namespace SqlBuilder

open Sql (Compiled toNamedBinds)

/-! ## A database and its replies -/

/-- The identifier that a reply says was generated; zero and null say that none was. -/
def Reply.identifier (reply : Reply) : Value :=
  reply.lastRowId.orElse .null

/-- An identifier of zero says that none was generated. -/
theorem Reply.identifier_int {reply : Reply} {n : Int} (h : reply.lastRowId = .int n) :
    reply.identifier = if n = 0 then .null else .int n := by
  rw [identifier, h, Value.orElse, Value.truthy]
  by_cases zero : n = 0 <;> simp [zero]

/-- An identifier of null says that none was generated. -/
theorem Reply.identifier_null {reply : Reply} (h : reply.lastRowId = .null) :
    reply.identifier = .null := by
  rw [identifier, h]
  rfl

namespace Connection

/-- A connection after an execution: a reply is taken, and if it is no failure its identifier may be
recorded. -/
def serve (c : Connection) (records : Bool) : Connection :=
  if c.next.1.failure.isNone && records then
    { c.next.2 with lastInsertId := c.next.1.identifier }
  else c.next.2

/-- A connection after texts were executed one after another. -/
def served (records : String → Bool) (c : Connection) (texts : List String) : Connection :=
  texts.foldl (fun c text => c.serve (records text)) c

/-- Texts that are executed one after another, each with its reply. -/
def replies (c : Connection) : List String → List (String × Reply)
  | [] => []
  | text :: rest => (text, c.next.1) :: c.next.2.replies rest

/-- The identifier of the last of these replies that is no failure and was given to a text for which
identifiers are recorded; what the connection had if there is none. -/
def latest (c : Connection) (records : String → Bool) (texts : List String) : Value :=
  match ((c.replies texts).filter fun run => run.2.failure.isNone && records run.1).getLast? with
  | some run => run.2.identifier
  | none => c.lastInsertId

/-- Taking a reply does not record an identifier. -/
theorem lastInsertId_next (c : Connection) : c.next.2.lastInsertId = c.lastInsertId := by
  unfold next
  split <;> rfl

/-- An execution for which no identifiers are recorded leaves the recorded one. -/
theorem lastInsertId_serve_false (c : Connection) :
    (c.serve false).lastInsertId = c.lastInsertId := by
  rw [serve, Bool.and_false, if_neg Bool.false_ne_true, lastInsertId_next]

/-- A failed execution takes its reply and records nothing. -/
theorem serve_of_failure {c : Connection} {failure : Failure}
    (h : c.next.1.failure = some failure) (records : Bool) : c.serve records = c.next.2 := by
  rw [serve, h]
  exact if_neg Bool.false_ne_true

/-- An accepted execution takes its reply, and may record its identifier. -/
theorem serve_of_accepted {c : Connection} (h : c.next.1.failure = none) (records : Bool) :
    c.serve records =
      if records then { c.next.2 with lastInsertId := c.next.1.identifier } else c.next.2 := by
  rw [serve, h]
  rfl

/-- The replies depend on what is left of the script only. -/
theorem replies_congr {c c' : Connection} (same : c.script = c'.script) (texts : List String) :
    c.replies texts = c'.replies texts := by
  induction texts generalizing c c' with
  | nil => rfl
  | cons text rest ih =>
    have first : c.next.1 = c'.next.1 ∧ c.next.2.script = c'.next.2.script := by
      unfold next
      rw [same]
      split
      · exact ⟨rfl, same⟩
      · exact ⟨rfl, rfl⟩
    rw [replies, replies, first.1, ih first.2]

/-- An execution takes one reply, whether an identifier is recorded or not. -/
theorem script_serve (c : Connection) (records : Bool) :
    (c.serve records).script = c.next.2.script := by
  unfold serve
  split <;> rfl

/-- The identifier that was recorded last is that of the last reply that counts. -/
theorem lastInsertId_served (records : String → Bool) (c : Connection) (texts : List String) :
    (c.served records texts).lastInsertId = c.latest records texts := by
  induction texts generalizing c with
  | nil => rfl
  | cons text rest ih =>
    have later : (c.served records (text :: rest)).lastInsertId =
        (c.serve (records text)).latest records rest := ih _
    have same := replies_congr (script_serve c (records text)) rest
    -- If a later reply counts it is the last one; if none does, it is the first reply's turn.
    rw [later, latest, latest, same, replies, List.filter_cons, serve]
    cases counts : c.next.1.failure.isNone && records text with
    | true =>
      rw [if_pos rfl, if_pos rfl, List.getLast?_cons]
      cases (List.filter _ (c.next.2.replies rest)).getLast? <;> rfl
    | false =>
      rw [if_neg Bool.false_ne_true, if_neg Bool.false_ne_true, lastInsertId_next]

end Connection

/-! ## Drivers of a scripted database -/

/-- How a driver reaches a scripted database. -/
structure Serving (d : Driver) where
  /-- The connection to the database. -/
  view : d.Connection → Connection
  /-- Prepared statements as they come out of the driver. -/
  fits : d.Prepared → Prop
  /-- The text that a prepared statement executes. -/
  text : d.Prepared → String
  /-- The text that a statement prepared from a text executes. -/
  rendered : String → String
  /-- The text that was executed according to an event. -/
  ran : d.Event → Option String
  /-- Whether an identifier is recorded for a text. -/
  records : String → Bool

namespace Serving

variable {d : Driver} (v : Serving d)

/-- What a call leaves behind that does not reach the database. -/
structure Aside (p : d.Prepared) (c : d.Connection) (p' : d.Prepared) (c' : d.Connection)
    (events : List d.Event) : Prop where
  /-- The statement still fits. -/
  fits : v.fits p'
  /-- Its text. -/
  text : v.text p' = v.text p
  /-- The database. -/
  view : v.view c' = v.view c
  /-- No execution is reported. -/
  silent : events.filterMap v.ran = []

/-- What an execution leaves behind that reaches the database. -/
structure Asks (p : d.Prepared) (c : d.Connection)
    (contact : Contact d.Connection d.Prepared d.Event Unit) : Prop where
  /-- The statement still fits. -/
  fits : v.fits contact.prepared
  /-- Its text. -/
  text : v.text contact.prepared = v.text p
  /-- The database gives its next reply. -/
  view : v.view contact.connection = (v.view c).serve (v.records (v.text p))
  /-- The execution is reported. -/
  told : contact.events.filterMap v.ran = [v.text p]
  /-- It fails exactly if the reply does. -/
  outcome : contact.outcome = .ok () ↔ (v.view c).next.1.failure = none

/-- The driver reaches the database by executing only, and always by executing the text of the
prepared statement. -/
structure Lawful : Prop where
  /-- The recorded identifier is that of the database. -/
  lastInsertId : ∀ c, d.lastInsertId c = (v.view c).lastInsertId
  /-- Preparing a text does not reach the database. -/
  prepare : ∀ sql c, v.text (d.prepare sql c).1 = v.rendered sql ∧
    v.Aside (d.prepare sql c).1 c (d.prepare sql c).1 (d.prepare sql c).2.1 (d.prepare sql c).2.2
  /-- Binding does not reach it. -/
  bind : ∀ {p}, v.fits p → ∀ c position value tag,
    v.Aside p c (d.bind p c position value tag).prepared (d.bind p c position value tag).connection
      (d.bind p c position value tag).events
  /-- Executing reaches it, unless the statement is refused before. -/
  execute : ∀ {p}, v.fits p → ∀ c,
    ((∃ e, (d.execute p c).outcome = .error e) ∧
      v.Aside p c (d.execute p c).prepared (d.execute p c).connection (d.execute p c).events) ∨
    v.Asks p c (d.execute p c)
  /-- Asking for a row does not reach it. -/
  fetch : ∀ {p}, v.fits p → ∀ c,
    v.Aside p c (d.fetch p c).prepared (d.fetch p c).connection (d.fetch p c).events
  /-- Closing does not reach it. -/
  close : ∀ {p}, v.fits p → ∀ c,
    v.Aside p c (d.close p c).1 (d.close p c).2.1 (d.close p c).2.2

/-- A text without a recorded identifier. -/
def Plain (sql : String) : Prop :=
  v.records (v.rendered sql) = false

/-! ## Sessions -/

/-- The text that was executed according to an entry. -/
def ranIn : Entry d.Event → Option String
  | .log _ _ => none
  | .report e => v.ran e

/-- The texts that were executed, oldest first. -/
def executed (s : Session d) : List String :=
  s.journal.filterMap v.ranIn

/-- Log records are not executed. -/
theorem executed_log (s : Session d) (level : LogLevel) (message : String) :
    v.executed (s.log level message) = v.executed s := by
  rw [executed, Session.journal_log, List.filterMap_append]
  exact List.append_nil _

/-- What a call leaves behind adds the texts that it reports to have executed. -/
theorem executed_reach (s : Session d) (c : d.Connection) (events : List d.Event) :
    v.executed (s.reach c events) = v.executed s ++ events.filterMap v.ran := by
  rw [executed, Session.journal_reach, List.filterMap_append, List.filterMap_map]
  rfl

/-- A session in which the database was not reached since another one. -/
structure Still (s s' : Session d) : Prop where
  /-- The database. -/
  view : v.view s'.connection = v.view s.connection
  /-- The texts that were executed. -/
  executed : v.executed s' = v.executed s

/-- The database is not reached between a moment and itself. -/
theorem Still.refl (s : Session d) : v.Still s s :=
  ⟨rfl, rfl⟩

/-- A session in which one text was executed since another one. -/
structure Asked (text : String) (s s' : Session d) : Prop where
  /-- The database gave its next reply. -/
  view : v.view s'.connection = (v.view s.connection).serve (v.records text)
  /-- The text comes after the others. -/
  executed : v.executed s' = v.executed s ++ [text]

variable {v} {s s' s'' : Session d} {text : String}

/-- Not reaching the database is transitive. -/
theorem Still.trans (h : v.Still s s') (h' : v.Still s' s'') : v.Still s s'' :=
  ⟨h'.view.trans h.view, h'.executed.trans h.executed⟩

/-- One text was executed if nothing was before it. -/
theorem Still.asked (h : v.Still s s') (h' : v.Asked text s' s'') : v.Asked text s s'' :=
  ⟨by rw [h'.view, h.view], by rw [h'.executed, h.executed]⟩

/-- One text was executed if nothing was after it. -/
theorem Asked.still (h : v.Asked text s s') (h' : v.Still s' s'') : v.Asked text s s'' :=
  ⟨h'.view.trans h.view, h'.executed.trans h.executed⟩

/-- Log records do not reach the database. -/
theorem still_log (s : Session d) (level : LogLevel) (message : String) :
    v.Still s (s.log level message) :=
  ⟨rfl, v.executed_log s level message⟩

/-- Announcing compiled SQL does not reach the database. -/
theorem still_announce (s : Session d) (logs : Bool) (compiled : Compiled) :
    v.Still s (s.announce logs compiled) := by
  cases logs with
  | false => exact .refl v s
  | true => exact still_log s _ _

/-- A call that leaves the database aside does not reach it. -/
theorem Aside.still {p p' : d.Prepared} {c : d.Connection} {events : List d.Event}
    (h : v.Aside p s.connection p' c events) : v.Still s (s.reach c events) := by
  refine ⟨h.view, ?_⟩
  rw [executed_reach, h.silent, List.append_nil]

/-- An execution that reaches the database executes the text of its statement. -/
theorem Asks.asked {p : d.Prepared} {contact : Contact d.Connection d.Prepared d.Event Unit}
    (h : v.Asks p s.connection contact) :
    v.Asked (v.text p) s (s.reach contact.connection contact.events) := by
  refine ⟨h.view, ?_⟩
  rw [executed_reach, h.told]

variable (lawful : v.Lawful)

include lawful

/-! ## Running a statement -/

/-- Binding values does not reach the database, and leaves the text of the statement. -/
theorem still_bindFrom (s : Session d) {p : d.Prepared} (fit : v.fits p) (position : Nat)
    (values : List Value) : v.fits (s.bindFrom p position values).2.1 ∧
      v.text (s.bindFrom p position values).2.1 = v.text p ∧
      v.Still s (s.bindFrom p position values).2.2 := by
  induction values generalizing s p position with
  | nil => exact ⟨fit, rfl, .refl v s⟩
  | cons value rest ih =>
    have aside := lawful.bind fit s.connection position value value.tag
    have still : v.Still s (s.bind p position value value.tag).2.2 := aside.still
    have fit : v.fits (s.bind p position value value.tag).2.1 := aside.fits
    have same : v.text (s.bind p position value value.tag).2.1 = v.text p := aside.text
    rw [Session.bindFrom]
    generalize s.bind p position value value.tag = bound at still fit same ⊢
    obtain ⟨outcome, p₁, s₁⟩ := bound
    cases outcome with
    | error e => exact ⟨fit, same, still⟩
    | ok done =>
      obtain ⟨fits, texts, later⟩ := ih s₁ fit (position + 1)
      exact ⟨fits, texts.trans same, still.trans later⟩

/-- Binding values and executing: an error before the database is reached, or one execution. -/
theorem launch_asks (s : Session d) {p : d.Prepared} (fit : v.fits p) (values : List Value) :
    v.fits (s.launch p values).2.1 ∧
      ((∃ e, (s.launch p values).1 = .error e) ∧ v.Still s (s.launch p values).2.2 ∨
        v.Asked (v.text p) s (s.launch p values).2.2 ∧
          ((s.launch p values).1 = .ok () ↔ (v.view s.connection).next.1.failure = none)) := by
  obtain ⟨fit, same, still⟩ := still_bindFrom lawful s fit 0 values
  rw [Session.launch]
  generalize s.bindFrom p 0 values = bound at fit same still ⊢
  obtain ⟨outcome, p₁, s₁⟩ := bound
  cases outcome with
  | error e => exact ⟨fit, .inl ⟨⟨e, rfl⟩, still⟩⟩
  | ok done =>
    rcases lawful.execute fit s₁.connection with ⟨failed, aside⟩ | asks
    · exact ⟨aside.fits, .inl ⟨failed, still.trans aside.still⟩⟩
    · have asked : v.Asked (v.text p₁) s (s₁.execute p₁).2.2 := still.asked asks.asked
      have outcome := asks.outcome
      rw [same] at asked
      rw [still.view] at outcome
      exact ⟨asks.fits, .inr ⟨asked, outcome⟩⟩

/-- Closing does not reach the database. -/
theorem still_close (s : Session d) {p : d.Prepared} (fit : v.fits p) : v.Still s (s.close p).2 :=
  (lawful.close fit s.connection).still

/-- What comes of a compiled statement: it is refused before it reaches the database; the database
fails; it succeeds, but column names are repeated; or it succeeds. -/
inductive Comes (v : Serving d) (text : String) (s : Session d) :
    Except Error d.Prepared → Session d → Prop
  /-- The database was not reached. -/
  | refused {e : Error} {s' : Session d} (still : v.Still s s') : Comes v text s (.error e) s'
  /-- The database failed. -/
  | failed {e : Error} {s' : Session d} (asked : v.Asked text s s')
    (failure : (v.view s.connection).next.1.failure ≠ none) : Comes v text s (.error e) s'
  /-- The database succeeded, and the result is refused. -/
  | duplicates {names : List String} {s' : Session d} (asked : v.Asked text s s')
    (accepted : (v.view s.connection).next.1.failure = none) :
    Comes v text s (.error (.duplicateColumns names)) s'
  /-- The database succeeded. -/
  | done {p : d.Prepared} {s' : Session d} (fit : v.fits p) (asked : v.Asked text s s')
    (accepted : (v.view s.connection).next.1.failure = none) : Comes v text s (.ok p) s'

/-- Running compiled SQL comes to one of four things. -/
theorem run_comes (s : Session d) (logs : Bool) (compiled : Compiled) :
    Comes v (v.rendered compiled.sql) s (s.run logs compiled).1 (s.run logs compiled).2 := by
  obtain ⟨rendered, aside⟩ := lawful.prepare compiled.sql (s.announce logs compiled).connection
  have ready : v.Still s ((s.announce logs compiled).prepare compiled.sql).2 :=
    (still_announce s logs compiled).trans aside.still
  have fit : v.fits ((s.announce logs compiled).prepare compiled.sql).1 := aside.fits
  have text : v.text ((s.announce logs compiled).prepare compiled.sql).1 =
      v.rendered compiled.sql := rendered
  rw [Session.run]
  generalize (s.announce logs compiled).prepare compiled.sql = made at ready fit text ⊢
  obtain ⟨p₁, s₁⟩ := made
  dsimp only at ready fit text ⊢
  obtain ⟨fit, result⟩ := launch_asks lawful s₁ fit compiled.params
  rw [text, ready.view] at result
  generalize s₁.launch p₁ compiled.params = launched at fit result ⊢
  obtain ⟨outcome, p₂, s₂⟩ := launched
  cases outcome with
  | error e =>
    -- Whether or not the failure is logged and the statement closed, the database is left alone.
    have closed : v.Still s₂ ((s₂.log .error (Session.failureMessage compiled)).close p₂).2 :=
      (still_log s₂ _ _).trans (still_close lawful _ fit)
    dsimp only at result ⊢
    rcases result with ⟨-, still⟩ | ⟨asked, outcome⟩
    · split
      · exact .refused ((ready.trans still).trans closed)
      · exact .refused (ready.trans still)
    · have failure : (v.view s.connection).next.1.failure ≠ none := by
        intro accepted
        cases outcome.2 accepted
      split
      · exact .failed ((ready.asked asked).still closed) failure
      · exact .failed (ready.asked asked) failure
  | ok done =>
    dsimp only at result ⊢
    rcases result with ⟨⟨e, failed⟩, -⟩ | ⟨asked, outcome⟩
    · cases failed
    · have accepted := outcome.1 rfl
      split
      · exact .done fit (ready.asked asked) accepted
      · exact .duplicates ((ready.asked asked).still (still_close lawful s₂ fit)) accepted

/-! ## What a journal says about the connection -/

/-- The connection is what the executed texts made of the one in the beginning. -/
def Served (v : Serving d) (start : Connection) (s : Session d) : Prop :=
  v.view s.connection = start.served v.records (v.executed s)

omit lawful in
/-- The replies that were given are the same while the database is not reached. -/
theorem Still.served {start : Connection} (h : v.Still s s') (served : v.Served start s) :
    v.Served start s' := by
  rw [Served, h.view, h.executed, served]

omit lawful in
/-- A text that is executed is given the next reply. -/
theorem Asked.served {start : Connection} (h : v.Asked text s s') (served : v.Served start s) :
    v.Served start s' := by
  rw [Served, h.view, h.executed, served, Connection.served, Connection.served, List.foldl_append]
  rfl

/-- Every call keeps the connection what the executed texts made of it. -/
theorem kept_served (start : Connection) :
    Session.Kept (fun _ => True) v.fits (v.Served start) where
  log served level message := (still_log _ level message).served served
  prepare {s} served {sql} _ := by
    obtain ⟨-, aside⟩ := lawful.prepare sql s.connection
    exact ⟨aside.fits, aside.still.served served⟩
  bind {s} served {p} fit position value tag := by
    have aside := lawful.bind fit s.connection position value tag
    exact ⟨aside.fits, aside.still.served served⟩
  execute {s} served {p} fit := by
    rcases lawful.execute fit s.connection with ⟨-, aside⟩ | asks
    · exact ⟨aside.fits, aside.still.served served⟩
    · exact ⟨asks.fits, asks.asked.served served⟩
  fetch {s} served {p} fit := by
    have aside := lawful.fetch fit s.connection
    exact ⟨aside.fits, aside.still.served served⟩
  close {s} served {p} fit := by
    have aside := lawful.close fit s.connection
    exact ⟨aside.fits, aside.still.served served⟩

/-- Statements for texts without a recorded identifier leave the last one as it is. -/
theorem kept_lastInsertId (id : Value) :
    Session.Kept v.Plain (fun p => v.fits p ∧ v.records (v.text p) = false)
      (fun s => d.lastInsertId s.connection = id) := by
  -- What does not reach the database keeps both the text and the identifier.
  have idle {p p' : d.Prepared} {c c' : d.Connection} {events : List d.Event}
      (aside : v.Aside p c p' c' events) (unrecorded : v.records (v.text p) = false)
      (same : d.lastInsertId c = id) :
      (v.fits p' ∧ v.records (v.text p') = false) ∧ d.lastInsertId c' = id := by
    rw [lawful.lastInsertId] at same ⊢
    rw [aside.view, aside.text]
    exact ⟨⟨aside.fits, unrecorded⟩, same⟩
  refine ⟨fun same _ _ => same, ?_, ?_, ?_, ?_, ?_⟩
  · intro s same sql unrecorded
    obtain ⟨rendered, aside⟩ := lawful.prepare sql s.connection
    exact idle aside (rendered ▸ unrecorded) same
  · intro s same p fit position value tag
    exact idle (lawful.bind fit.1 s.connection position value tag) fit.2 same
  · intro s same p fit
    rcases lawful.execute fit.1 s.connection with ⟨-, aside⟩ | asks
    · exact idle aside fit.2 same
    · have text : v.records (v.text (d.execute p s.connection).prepared) = false := by
        rw [asks.text, fit.2]
      have last : d.lastInsertId (d.execute p s.connection).connection = id := by
        rw [lawful.lastInsertId, asks.view, fit.2, Connection.lastInsertId_serve_false,
          ← lawful.lastInsertId, same]
      exact ⟨⟨asks.fits, text⟩, last⟩
  · intro s same p fit
    exact idle (lawful.fetch fit.1 s.connection) fit.2 same
  · intro s same p fit
    exact idle (lawful.close fit.1 s.connection) fit.2 same

end Serving

/-! ## The adapters -/

namespace Positional

/-- The positional driver executes texts as they are and records an identifier for each. -/
def serving : Serving driver where
  view c := c
  fits _ := True
  text := Prepared.sql
  rendered sql := sql
  ran
    | .executedPositional sql _ => some sql
    | _ => none
  records _ := true

/-- Binding by position, a scripted database is reached by executing only. -/
theorem serving_lawful : serving.Lawful where
  lastInsertId _ := rfl
  prepare _ _ := ⟨rfl, trivial, rfl, rfl, rfl⟩
  bind {p} _ c position value tag := by
    simp only [driver, Prepared.bind]
    split
    · exact ⟨trivial, rfl, rfl, rfl⟩
    · split <;> exact ⟨trivial, rfl, rfl, rfl⟩
  execute {p} _ c := by
    refine .inr ?_
    show serving.Asks p c (Prepared.execute p c)
    cases failing : c.next.1.failure with
    | some failure =>
      have ran : Prepared.execute p c = ⟨.error (p.errorOf failure), p, c.next.2,
          [.executedPositional p.sql p.params]⟩ := by
        simp only [Prepared.execute, failing]
      rw [ran]
      refine ⟨trivial, rfl, (Connection.serve_of_failure failing true).symm, rfl, ?_⟩
      constructor
      · intro succeeds
        cases succeeds
      · intro accepted
        cases failing.symm.trans accepted
    | none =>
      rw [execute_of_accepted p failing]
      exact ⟨trivial, rfl, (Connection.serve_of_accepted failing true).symm, rfl, fun _ => failing,
        fun _ => rfl⟩
  fetch {p} _ c := by
    simp only [driver, Prepared.fetch]
    split <;> exact ⟨trivial, rfl, rfl, rfl⟩
  close {p} _ c := by
    simp only [driver, Prepared.close]
    split <;> exact ⟨trivial, rfl, rfl, rfl⟩

end Positional

namespace Named

/-- The driver with named binds executes texts with named binds and records an identifier for those
that insert. -/
def serving : Serving driver where
  view c := c
  fits (p : Prepared) := p.namedSql = (toNamedBinds p.sql).1
  text := Prepared.namedSql
  rendered sql := (toNamedBinds sql).1
  ran
    | .executedNamed sql _ => some sql
    | _ => none
  records := Prepared.inserts

/-- Binding by name, a scripted database is reached by executing only. -/
theorem serving_lawful : serving.Lawful where
  lastInsertId _ := rfl
  prepare _ _ := ⟨rfl, rfl, rfl, rfl, rfl⟩
  bind {p} fit c position value tag := by
    simp only [driver, Prepared.bind]
    split
    · split
      · split <;> exact ⟨fit, rfl, rfl, rfl⟩
      · exact ⟨fit, rfl, rfl, rfl⟩
    · exact ⟨fit, rfl, rfl, rfl⟩
  execute {p} fit c := by
    -- Which identifiers are recorded depends on the given text; the one that runs has named binds.
    have text : Prepared.inserts p.namedSql = Prepared.inserts p.sql := by
      rw [show p.namedSql = _ from fit, inserts_toNamedBinds]
    cases known : Prepared.bindsKnown p with
    | false =>
      have ran : Prepared.execute p c = ⟨.error .unknownBind, p, c, []⟩ := by
        simp only [Prepared.execute, known]
        rfl
      refine .inl ?_
      show (∃ e, (Prepared.execute p c).outcome = .error e) ∧ serving.Aside p c
        (Prepared.execute p c).prepared (Prepared.execute p c).connection
        (Prepared.execute p c).events
      rw [ran]
      exact ⟨⟨_, rfl⟩, fit, rfl, rfl, rfl⟩
    | true =>
      refine .inr ?_
      show serving.Asks p c (Prepared.execute p c)
      cases failing : c.next.1.failure with
      | some failure =>
        have ran : Prepared.execute p c = ⟨.error (p.errorOf failure), p, c.next.2,
            [.executedNamed p.namedSql p.parameters]⟩ := by
          simp only [Prepared.execute, known, failing]
          rfl
        rw [ran]
        refine ⟨fit, rfl, (Connection.serve_of_failure failing _).symm, rfl, ?_⟩
        constructor
        · intro succeeds
          cases succeeds
        · intro accepted
          cases failing.symm.trans accepted
      | none =>
        rw [execute_of_accepted known failing]
        have accepts : (Prepared.accept p c.next.1).namedSql = p.namedSql ∧
            (Prepared.accept p c.next.1).sql = p.sql := by
          unfold Prepared.accept
          split <;> exact ⟨rfl, rfl⟩
        refine ⟨?_, accepts.1, ?_, rfl, fun _ => failing, fun _ => rfl⟩
        · show (Prepared.accept p c.next.1).namedSql = _
          rw [accepts.1, accepts.2]
          exact fit
        · have same : Connection.serve c (Prepared.inserts p.namedSql) =
              Connection.serve c (Prepared.inserts p.sql) := by rw [text]
          exact (same.trans (Connection.serve_of_accepted failing _)).symm
  fetch {p} fit c := by
    simp only [driver, Prepared.fetch]
    split <;> exact ⟨fit, rfl, rfl, rfl⟩
  close {p} fit c := by
    simp only [driver, Prepared.close]
    split <;> exact ⟨fit, rfl, rfl, rfl⟩

end Named

end SqlBuilder
