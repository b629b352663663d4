import SqlBuilder.Proofs.LayerFailures
import SqlBuilder.Statement.Call

/-!
# The calls that run at once

Reading all rows, reading the first row, an insertion, an update and a deletion compile the
statement and run it at once. A call that does not compile, or that has no session, leaves the
session alone. Any other call adds the lines of exactly one prepared statement, which is opened with
what was compiled, read only after it was executed and only up to the end of its rows, and closed in
the end, whatever happens.
-/

set_option autoImplicit false

namespace SqlBuilder

open Sql (Compiled)

/-- A call that runs the statement at once. -/
inductive EagerCall where
  /-- Reads all rows. -/
  | get
  /-- Reads the first row. -/
  | first
  /-- Inserts a row. -/
  | insert (data : Arg)
  /-- Changes rows. -/
  | update (data : Arg)
  /-- Removes rows. -/
  | delete

namespace EagerCall

variable {d : Driver}

/-- The call itself. -/
def toCall : EagerCall → Call
  | get => .get
  | first => .first
  | insert data => .insert data
  | update data => .update data
  | delete => .delete

/-- The state after the call: reading the first row sets the limit. -/
def target : EagerCall → State → State
  | first, s => { s with limit := some (.int 1) }
  | _, s => s

/-- What the call compiles. -/
def compile : EagerCall → State → Except Error Compiled
  | get, s => s.compile
  | first, s => (first.target s).compile
  | insert data, s => s.compileInsert data.toValue
  | update data, s => s.compileUpdate data.toValue
  | delete, s => s.compileDelete

/-- What the call does with a session. -/
def exchange (call : EagerCall) (s : Session d) (logs : Bool) (compiled : Compiled) :
    Except Error Answer × Session d :=
  match call with
  | get => ((s.fetchAll logs compiled).1.map .rows, (s.fetchAll logs compiled).2)
  | first =>
    ((s.fetchAll logs compiled).1.map fun rows => .row rows.head?, (s.fetchAll logs compiled).2)
  | insert _ => ((s.insert logs compiled).1.map .identifier, (s.insert logs compiled).2)
  | update _ | delete => ((s.affect logs compiled).1.map .count, (s.affect logs compiled).2)

/-- Running a statement and answering in some form. -/
theorem running_answer {α : Type} (st : Statement d) (compiled : Except Error Compiled)
    (run : Session d → Bool → Compiled → Except Error α × Session d) (kind : α → Answer) :
    Outcome.answer kind (st.running compiled run) =
      st.running compiled fun s logs compiled =>
        ((run s logs compiled).1.map kind, (run s logs compiled).2) := by
  unfold Statement.running Outcome.answer
  cases compiled with
  | error e => rfl
  | ok compiled => cases st.session <;> rfl

/-- The call runs what it compiles in its exchange. -/
theorem run_toCall (call : EagerCall) (st : Statement d) :
    call.toCall.run st =
      ({ st with state := call.target st.state } : Statement d).running (call.compile st.state)
        call.exchange := by
  cases call with
  | first =>
    show Outcome.answer .row (st.first) = _
    unfold Statement.first Statement.get Statement.running Outcome.answer
    dsimp only [target, compile]
    cases ({ st.state with limit := some (.int 1) } : State).compile with
    | error e => rfl
    | ok compiled =>
      cases st.session with
      | none => rfl
      | some s =>
        dsimp only [exchange]
        cases (s.fetchAll st.options.logStatements compiled).1 <;> rfl
  | _ => exact running_answer st _ _ _

/-! ## The lines of a call -/

/-- How a call that reads rows answers with them. -/
def ofRows : EagerCall → Option (List Row → Answer)
  | get => some .rows
  | first => some fun rows => .row rows.head?
  | _ => none

/-- Whether a call answers with a number of rows. -/
def counts : EagerCall → Bool
  | update _ | delete => true
  | _ => false

/-- The lines that a call adds for its prepared statement, from preparing to closing it, with the
connection that it starts on, the connection that it leaves and its answer. -/
inductive Follows (call : EagerCall) (number : Nat) (compiled : Compiled)
    (start left : d.Connection) : List Line → Except Error Answer → Prop
  /-- The statement does not come to be read. -/
  | failed {lines : List Line} {e : Error}
    (begun : Session.Begun d number compiled start lines (.error e)) :
    Follows call number compiled start left lines (.error e)
  /-- The rows are read. -/
  | read {kind : List Row → Answer} {lines more : List Line} {p : d.watched.Prepared}
    {rows : Except Error (List Row)} (reads : call.ofRows = some kind)
    (begun : Session.Begun d number compiled start lines (.ok p))
    (rest : Session.Reads number more rows) :
    Follows call number compiled start left (lines ++ more) (rows.map kind)
  /-- A row is inserted. -/
  | inserted {data : Arg} {lines : List Line} {p : d.watched.Prepared}
    (inserts : call = insert data) (begun : Session.Begun d number compiled start lines (.ok p)) :
    Follows call number compiled start left (lines ++ [.call number .close])
      (.ok (.identifier (d.lastInsertId left)))
  /-- Rows are changed or removed. -/
  | affected {lines : List Line} {p : d.watched.Prepared} (counts : call.counts = true)
    (begun : Session.Begun d number compiled start lines (.ok p)) :
    Follows call number compiled start left (lines ++ [.call number .close])
      (.ok (.count (d.rowCount p.1)))

/-- The lines that a call adds in all: its log record, if statements are logged, and those of one
prepared statement. -/
def Adds (call : EagerCall) (logs : Bool) (compiled : Compiled) (s s' : Session d.watched)
    (answer : Except Error Answer) : Prop :=
  s'.prepares = s.prepares + 1 ∧ ∃ lines,
    s'.lines =
      s.lines ++ (Session.announcement (d := d.watched) logs compiled).map Entry.line ++ lines ∧
    call.Follows s.prepares compiled s.connection.1 s'.connection.1 lines answer

section Exchanges

variable (s : Session d.watched) (logs : Bool) (compiled : Compiled)
  (faults : ∀ e, d.FailsWith compiled s.connection.1 e → e.isDriverError = true)

include faults

/-- A statement that does not come to be read is all that a call adds. -/
theorem adds_of_run_error {call : EagerCall} {e : Error} {t : Session d.watched}
    (h : s.run logs compiled = (.error e, t)) : call.Adds logs compiled s t (.error e) := by
  obtain ⟨prepares, lines, added, begun⟩ := Session.run_watched s logs compiled faults
  rw [h] at prepares added begun
  exact ⟨prepares, lines, added, .failed begun⟩

/-- A statement that is open adds its lines, and then those of its use. -/
theorem adds_of_run_ok {p : d.watched.Prepared} {t : Session d.watched}
    (h : s.run logs compiled = (.ok p, t)) :
    p.2 = s.prepares ∧ ∃ lines, Session.Begun d s.prepares compiled s.connection.1 lines (.ok p) ∧
      ∀ {more : List Line} {t' : Session d.watched}, Session.Adds more t t' →
        t'.prepares = s.prepares + 1 ∧ t'.lines =
          s.lines ++ (Session.announcement (d := d.watched) logs compiled).map Entry.line ++
            (lines ++ more) := by
  obtain ⟨prepares, lines, added, begun⟩ := Session.run_watched s logs compiled faults
  rw [h] at prepares added begun
  have number : p.2 = s.prepares := by
    cases begun
    rfl
  refine ⟨number, lines, begun, ?_⟩
  intro more t' adds
  refine ⟨adds.prepares.trans prepares, ?_⟩
  rw [adds.lines, added, List.append_assoc]

/-- What reading rows adds to the lines is what the protocol says, with the answer of the call. -/
theorem adds_fetchAll {call : EagerCall} {kind : List Row → Answer}
    (reads : call.ofRows = some kind) :
    call.Adds logs compiled s (s.fetchAll logs compiled).2
      ((s.fetchAll logs compiled).1.map kind) := by
  unfold Session.fetchAll
  cases ran : s.run logs compiled with
  | mk outcome t =>
    cases outcome with
    | error e => exact adds_of_run_error s logs compiled faults ran
    | ok p =>
      obtain ⟨number, lines, begun, whole⟩ := adds_of_run_ok s logs compiled faults ran
      obtain ⟨more, adds, rest⟩ := Session.collect_watched t p
      rw [number] at rest
      obtain ⟨prepares, added⟩ := whole adds
      exact ⟨prepares, _, added, .read reads begun rest⟩

/-- What inserting adds to the lines is what the protocol says, with the generated identifier. -/
theorem adds_insert (data : Arg) :
    (insert data).Adds logs compiled s (s.insert logs compiled).2
      ((s.insert logs compiled).1.map .identifier) := by
  unfold Session.insert
  cases ran : s.run logs compiled with
  | mk outcome t =>
    cases outcome with
    | error e => exact adds_of_run_error s logs compiled faults ran
    | ok p =>
      obtain ⟨number, lines, begun, whole⟩ := adds_of_run_ok s logs compiled faults ran
      obtain ⟨prepares, added⟩ := whole (Session.adds_close t p)
      rw [number] at added
      exact ⟨prepares, _, added, .inserted rfl begun⟩

/-- What an UPDATE or a DELETE adds to the lines is what the protocol says, with the count of rows.
-/
theorem adds_affect {call : EagerCall} (counts : call.counts = true) :
    call.Adds logs compiled s (s.affect logs compiled).2
      ((s.affect logs compiled).1.map .count) := by
  unfold Session.affect
  cases ran : s.run logs compiled with
  | mk outcome t =>
    cases outcome with
    | error e => exact adds_of_run_error s logs compiled faults ran
    | ok p =>
      obtain ⟨number, lines, begun, whole⟩ := adds_of_run_ok s logs compiled faults ran
      obtain ⟨prepares, added⟩ := whole (Session.adds_close t p)
      rw [number] at added
      exact ⟨prepares, _, added, .affected counts begun⟩

/-- The exchange of a call adds the lines of the call. -/
theorem adds_exchange (call : EagerCall) :
    call.Adds logs compiled s (call.exchange s logs compiled).2
      (call.exchange s logs compiled).1 := by
  -- Reading the first row reads them all: only the compiled text is another.
  cases call with
  | get => exact adds_fetchAll s logs compiled faults rfl
  | first => exact adds_fetchAll s logs compiled faults rfl
  | insert data => exact adds_insert s logs compiled faults data
  | update data => exact adds_affect s logs compiled faults rfl
  | delete => exact adds_affect s logs compiled faults rfl

end Exchanges

/-- The exchange of a call is the same when it is not watched. -/
theorem exchange_unwatched (call : EagerCall) (s : Session d.watched) (logs : Bool)
    (compiled : Compiled) :
    call.exchange (d.watchedCover.session s) logs compiled =
      ((call.exchange s logs compiled).1,
        d.watchedCover.session (call.exchange s logs compiled).2) := by
  have answered {α : Type} (kind : α → Answer) {left : Except Error α × Session d.watched}
      {right : Except Error α × Session d}
      (h : left.1 = right.1 ∧ d.watchedCover.session left.2 = right.2) :
      (right.1.map kind, right.2) = (left.1.map kind, d.watchedCover.session left.2) := by
    rw [h.1, h.2]
  have same : d.watchedCover.pairing.session s (d.watchedCover.session s) := rfl
  have runs : d.watchedCover.pairing.runs compiled := trivial
  have rows := d.watchedCover.pairing.fetchAll same runs logs
  have inserted := d.watchedCover.pairing.insert same runs logs trivial
  have counted := d.watchedCover.pairing.affect same runs logs
  cases call with
  | get => exact answered _ rows
  | first => exact answered _ rows
  | insert data => exact answered _ inserted
  | update data => exact answered _ counted
  | delete => exact answered _ counted

end EagerCall

/-- A statement that is not watched. -/
def Statement.unwatched {d : Driver} (st : Statement d.watched) : Statement d :=
  { options := st.options, state := st.state, session := st.session.map d.watchedCover.session }

open EagerCall

variable {d : Driver}

/-- A call is the same when it is not watched. -/
theorem EagerCall.run_unwatched (call : EagerCall) (st : Statement d.watched) :
    call.toCall.run st.unwatched = ((call.toCall.run st).1, (call.toCall.run st).2.unwatched) := by
  rw [run_toCall, run_toCall]
  simp only [Statement.running, Statement.unwatched]
  cases call.compile st.state with
  | error e => rfl
  | ok compiled =>
    cases st.session with
    | none => rfl
    | some s => simp only [Option.map_some, exchange_unwatched]

/-- A call that runs at once, on any statement. If it does not compile or has no session, it says so
and leaves the session alone: nothing is logged, and the driver is not called. Otherwise it adds
exactly the lines of one prepared statement, if the driver binds the compiled values in order and
executes the statement with no other failures than its own. All this is the same when the driver is
not watched. -/
theorem eager_call_protocol (call : EagerCall) (st : Statement d.watched)
    (faults : ∀ compiled s e, call.compile st.state = .ok compiled → st.session = some s →
      d.FailsWith compiled s.connection.1 e → e.isDriverError = true) :
    (call.toCall.run st).2.state = call.target st.state ∧
    (∀ e, call.compile st.state = .error e →
      (call.toCall.run st).1 = .error e ∧ (call.toCall.run st).2.session = st.session) ∧
    (∀ compiled, call.compile st.state = .ok compiled → st.session = none →
      (call.toCall.run st).1 = .error .noDriver ∧ (call.toCall.run st).2.session = none) ∧
    (∀ compiled s, call.compile st.state = .ok compiled → st.session = some s →
      ∃ s', (call.toCall.run st).2.session = some s' ∧
        call.Adds st.options.logStatements compiled s s' (call.toCall.run st).1) ∧
    call.toCall.run st.unwatched =
      ((call.toCall.run st).1, (call.toCall.run st).2.unwatched) := by
  have same := call.run_unwatched st
  rw [run_toCall call st] at same ⊢
  refine ⟨?_, ?_, ?_, ?_, same⟩
  · unfold Statement.running
    split <;> rfl
  · intro e failed
    rw [failed]
    exact ⟨rfl, rfl⟩
  · intro compiled compiles absent
    rw [compiles]
    unfold Statement.running
    rw [absent]
    exact ⟨rfl, rfl⟩
  · intro compiled s compiles present
    rw [compiles]
    unfold Statement.running
    rw [present]
    exact ⟨_, rfl, adds_exchange s _ compiled (fun e => faults compiled s e compiles present) call⟩

/-- A connection with a reply to give. -/
def oneReply : Connection :=
  { script := [{ columns := some ["a"], rows := [[.int 5]] }] }

/-- A statement with a value in WHERE that logs what it runs. -/
def loggedReader : Statement Positional.driver.watched :=
  let text (s : String) : Arg := .value (.text s)
  (Call.runAll
    [.readFrom (text "t") (.value .null),
      .require .rows (text "a") (text "=") (.value (.int 5)) (text "AND")]
    { options := { logStatements := true }, session := some { connection := (oneReply, 0) } }).2

/-- Reading the first row of the statement through the positional driver adds the lines of one
prepared statement. -/
theorem eager_call_protocol_loggedReader :
    ∃ s' compiled, (EagerCall.first.toCall.run loggedReader).2.session = some s' ∧
      compiled.sql = "SELECT * FROM t WHERE a = ? LIMIT 1" ∧
      EagerCall.first.Adds true compiled { connection := (oneReply, 0) } s'
        (EagerCall.first.toCall.run loggedReader).1 := by
  have shape : (EagerCall.first.compile loggedReader.state).toOption.map
      (fun compiled => (compiled.sql, compiled.params.all Value.isBindable)) =
        some ("SELECT * FROM t WHERE a = ? LIMIT 1", true) := by
    decide +kernel
  have succeeds : Adapter.positional.Knows oneReply := by
    intro reply member failure failed
    rw [List.mem_singleton.1 member] at failed
    cases failed
  cases compiles : EagerCall.first.compile loggedReader.state with
  | error e =>
    rw [compiles] at shape
    cases shape
  | ok compiled =>
    rw [compiles] at shape
    obtain ⟨sql, bindable⟩ := Prod.mk.inj (Option.some.inj shape)
    have faults : ∀ other s e, EagerCall.first.compile loggedReader.state = .ok other →
        loggedReader.session = some s → Positional.driver.FailsWith other s.connection.1 e →
          e.isDriverError = true := by
      intro other s e same present fails
      obtain rfl : compiled = other := Except.ok.inj (compiles.symm.trans same)
      obtain rfl : { connection := (oneReply, 0) } = s := Option.some.inj present
      exact Adapter.own_failures (a := .positional) (List.all_eq_true.1 bindable) succeeds fails
    obtain ⟨-, -, -, protocol, -⟩ := eager_call_protocol .first loggedReader faults
    obtain ⟨s', after, adds⟩ := protocol compiled _ compiles rfl
    exact ⟨s', compiled, after, sql, adds⟩

end SqlBuilder
