import SqlBuilder.Proofs.EagerCalls
import SqlBuilder.Proofs.Serving

/-!
# Generated identifiers

The identifier of an insertion is not in the result of its execution. It is recorded on the
connection, which all statements share, and read back after the statement was closed. Still an
insertion gives its own identifier on both adapters: its text is one for which identifiers are
recorded, and nothing is executed between its execution and the reading.

What other statements do to the recorded identifier depends on the adapter. The driver with named
binds records one for texts that insert, so compiled SELECTs, UPDATEs and DELETEs leave it as it is,
and after any run it is the one of the last insertion that succeeded. The positional driver records
one for every text, so it is the one of the last execution that succeeded, of whatever kind.
-/

set_option autoImplicit false

namespace SqlBuilder

open Sql (Compiled)

/-! ## Insertions -/

namespace Serving

variable {d : Driver} (v : Serving d)

/-- An insertion on a session gives the identifier in the reply to its own execution, and leaves it
recorded; if it does not compile or its execution fails, the recorded identifier stays. An insertion
that was executed can still be refused for repeated column names. -/
def InsertsOwn : Prop :=
  ∀ (st : Statement d) (data : Value) (s : Session d), st.session = some s →
    ∃ s', (st.insert data).2.session = some s' ∧
      (∀ id, (st.insert data).1 = .ok id → ∃ compiled,
        st.state.compileInsert data = .ok compiled ∧
        (v.view s.connection).next.1.failure = none ∧
        id = (v.view s.connection).next.1.identifier ∧
        v.executed s' = v.executed s ++ [v.rendered compiled.sql] ∧
        v.view s'.connection = { (v.view s.connection).next.2 with lastInsertId := id }) ∧
      ∀ e, (st.insert data).1 = .error e →
        d.lastInsertId s'.connection = d.lastInsertId s.connection ∨
          (v.view s.connection).next.1.failure = none ∧ ∃ names, e = .duplicateColumns names

variable {v} (lawful : v.Lawful)

include lawful

/-- An INSERT for which identifiers are recorded gives the identifier of the reply to its own
execution, which is then recorded; when it fails the recorded identifier stays, unless it is for
repeated column names only. -/
theorem insert_own {compiled : Compiled} (recorded : v.records (v.rendered compiled.sql) = true)
    (s : Session d) (logs : Bool) :
    (∀ id, (s.insert logs compiled).1 = .ok id →
      (v.view s.connection).next.1.failure = none ∧
      id = (v.view s.connection).next.1.identifier ∧
      v.executed (s.insert logs compiled).2 = v.executed s ++ [v.rendered compiled.sql] ∧
      v.view (s.insert logs compiled).2.connection =
        { (v.view s.connection).next.2 with lastInsertId := id }) ∧
    ∀ e, (s.insert logs compiled).1 = .error e →
      d.lastInsertId (s.insert logs compiled).2.connection = d.lastInsertId s.connection ∨
        (v.view s.connection).next.1.failure = none ∧ ∃ names, e = .duplicateColumns names := by
  have comes := run_comes lawful s logs compiled
  unfold Session.insert
  generalize s.run logs compiled = result at comes ⊢
  obtain ⟨outcome, t⟩ := result
  dsimp only at comes ⊢
  rw [lawful.lastInsertId s.connection]
  cases comes with
  | @refused e t still =>
    refine ⟨nofun, fun e' _ => .inl ?_⟩
    rw [lawful.lastInsertId, still.view]
  | @failed e t asked failure =>
    refine ⟨nofun, fun e' _ => .inl ?_⟩
    obtain ⟨reported, failing⟩ := Option.ne_none_iff_exists'.1 failure
    rw [lawful.lastInsertId, asked.view, Connection.serve_of_failure failing,
      Connection.lastInsertId_next]
  | @duplicates names t asked accepted =>
    refine ⟨nofun, fun e' same => .inr ⟨accepted, names, ?_⟩⟩
    exact (Except.error.inj same).symm
  | @done p t fit asked accepted =>
    -- Between the execution and the reading is the closing, which does not reach the database.
    have closed := asked.still (still_close lawful t fit)
    have view := closed.view
    rw [recorded, Connection.serve_of_accepted accepted, if_pos rfl] at view
    refine ⟨fun id same => ?_, nofun⟩
    have own : id = (v.view s.connection).next.1.identifier := by
      rw [← Except.ok.inj same, lawful.lastInsertId, view]
    exact ⟨accepted, own, closed.executed, by rw [view, own]⟩

/-- If identifiers are recorded for compiled insertions, they give their own. -/
theorem insertsOwn (recorded : ∀ {st : State} {data : Value} {compiled : Compiled},
    st.compileInsert data = .ok compiled → v.records (v.rendered compiled.sql) = true) :
    v.InsertsOwn := by
  intro st data s present
  unfold Statement.insert Statement.running
  rw [present]
  cases compiles : st.state.compileInsert data with
  | error e => exact ⟨s, present, nofun, fun _ _ => .inl rfl⟩
  | ok compiled =>
    obtain ⟨gives, keeps⟩ := insert_own lawful (recorded compiles) s st.options.logStatements
    refine ⟨_, rfl, ?_, keeps⟩
    intro id same
    exact ⟨compiled, rfl, gives id same⟩

end Serving

/-- An insertion gives its own identifier, on both adapters and whatever happened on the connection
before: the one in the reply to its execution, or null if that is null or zero. One that does not
compile, or whose execution fails, leaves the recorded identifier as it was. -/
theorem insertion_gives_own_identifier :
    Positional.serving.InsertsOwn ∧ Named.serving.InsertsOwn ∧
      ∀ reply : Reply,
        (reply.lastRowId = .null → reply.identifier = .null) ∧
        ∀ n, reply.lastRowId = .int n → reply.identifier = if n = 0 then .null else .int n := by
  refine ⟨?_, ?_, fun reply => ⟨Reply.identifier_null, fun n => Reply.identifier_int⟩⟩
  · exact Serving.insertsOwn Positional.serving_lawful fun _ => rfl
  · apply Serving.insertsOwn Named.serving_lawful
    intro st data compiled compiles
    exact (inserts_toNamedBinds compiled.sql).trans (Adapters.inserts_of_compileInsert compiles)

/-- A connection on which an identifier is recorded, and which replies with another one. -/
def numbering : Connection where
  script := [{ lastRowId := .int 9 }]
  lastInsertId := .int 7

/-- An insertion gives its own identifier and not the one that was recorded before. -/
theorem insertion_gives_own_identifier_nine :
    let table : Source := { sql := .text "t", table := .text "t", aliasName := .text "t" }
    let st : Statement Named.driver :=
      { state := { source := some table }, session := some { connection := numbering } }
    ∃ s', (st.insert (.mapping [(.text "a", .int 1)])).2.session = some s' ∧
      (st.insert (.mapping [(.text "a", .int 1)])).1 = .ok (.int 9) ∧
      Named.driver.lastInsertId s'.connection = .int 9 := by
  intro table st
  obtain ⟨s', found, gives, -⟩ :=
    insertion_gives_own_identifier.2.1 st (.mapping [(.text "a", .int 1)]) _ rfl
  have succeeds : (st.insert (.mapping [(.text "a", .int 1)])).1.toBool = true := by
    decide +kernel
  cases outcome : (st.insert (.mapping [(.text "a", .int 1)])).1 with
  | error e => rw [outcome] at succeeds; cases succeeds
  | ok id =>
    obtain ⟨compiled, -, -, own, -, view⟩ := gives id outcome
    have nine : id = .int 9 := own.trans ((Reply.identifier_int rfl).trans (if_neg (by decide)))
    exact ⟨s', found, congrArg Except.ok nine,
      (congrArg Connection.lastInsertId view).trans nine⟩

/-! ## Other statements -/

/-- Whether a call inserts. -/
def EagerCall.inserts : EagerCall → Bool
  | insert _ => true
  | _ => false

/-- Whether a step reads rows, changes them or removes them with a compiled statement. -/
def Step.spares : Step → Bool
  | .call .get | .call .first | .call (.update _) | .call .delete => true
  | .morph _ _ | .next _ | .rest _ | .stop _ => true
  | _ => false

/-- The identifier that is recorded on the connection of a workspace. -/
def Workspace.recorded {d : Driver} (w : Workspace d) : Option Value :=
  w.statement.session.map fun s => d.lastInsertId s.connection

namespace EagerCall

variable {d : Driver} (call : EagerCall)

/-- What an eager call runs keeps a property of sessions that every call keeps. -/
theorem kept_exchange {texts : String → Prop} {fits : d.Prepared → Prop} {holds : Session d → Prop}
    (kept : Session.Kept texts fits holds) {s : Session d} (h : holds s) (logs : Bool)
    {compiled : Compiled} (text : texts compiled.sql) :
    holds (call.exchange s logs compiled).2 := by
  cases call with
  | get | first => exact kept.fetchAll h logs text
  | insert data => exact kept.insert h logs text
  | update data | delete => exact kept.affect h logs text

/-- What an eager call leaves alone in a session it leaves alone in the session of the statement. -/
theorem session_run {α : Type} (f : Session d → α) (st : Statement d)
    (leaves : ∀ s logs compiled, call.compile st.state = .ok compiled →
      f (call.exchange s logs compiled).2 = f s) :
    (call.toCall.run st).2.session.map f = st.session.map f := by
  rw [run_toCall]
  unfold Statement.running
  cases compiles : call.compile st.state with
  | error e => rfl
  | ok compiled =>
    cases st.session with
    | none => rfl
    | some s => exact congrArg some (leaves s _ compiled compiles)

end EagerCall

namespace Serving

variable {d : Driver} {v : Serving d}

/-- An iterator over a text without a recorded identifier. -/
def Reads (v : Serving d) (it : RowIterator d) : Prop :=
  it.Fits v.Plain fun p => v.fits p ∧ v.records (v.text p) = false

/-- Compiled statements other than insertions have no recorded identifier. -/
def Sparing (v : Serving d) : Prop :=
  ∀ (call : EagerCall) {st : State} {compiled : Compiled}, call.inserts = false →
    call.compile st = .ok compiled → v.Plain compiled.sql

/-- Acting on an iterator of a workspace leaves the recorded identifier, if acting on one that reads
does. -/
theorem recorded_withIterator {w : Workspace d} (reads : ∀ it ∈ w.iterators, v.Reads it)
    {index : Nat}
    {act : RowIterator d → Session d → Except Error StepAnswer × RowIterator d × Session d}
    (acts : ∀ it s, v.Reads it →
      d.lastInsertId (act it s).2.2.connection = d.lastInsertId s.connection) :
    (w.withIterator index act).2.recorded = w.recorded := by
  unfold Workspace.withIterator Workspace.withSession
  cases place : w.iterators[index]? with
  | none => rfl
  | some it =>
    cases found : w.statement.session with
    | none => rfl
    | some s =>
      rw [Workspace.recorded, Workspace.recorded, found]
      exact congrArg some (acts it s (reads it (List.mem_of_getElem? place)))

variable (lawful : v.Lawful) (sparing : v.Sparing)

include lawful sparing

/-- The iterators of a workspace read compiled SELECTs. -/
theorem reads_effect {w w' : Workspace d} (effect : w.Effect w')
    (reads : ∀ it ∈ w.iterators, v.Reads it) : ∀ it ∈ w'.iterators, v.Reads it := by
  cases effect with
  | @morphed compiled compiles transform spread =>
    have text : v.Plain compiled.sql := sparing .get rfl compiles
    have new : ∀ it ∈ [RowIterator.pending compiled transform spread], v.Reads it :=
      List.forall_mem_singleton.2 text
    exact List.forall_mem_append.2 ⟨reads, new⟩
  | @iterated index it it' s s' place present used =>
    have own := reads it (List.mem_of_getElem? place)
    exact forall_mem_set reads index ((kept_lastInsertId lawful _).used rfl own used).1
  | _ => exact reads

/-- Reading, changing and removing rows leaves the recorded identifier as it is. -/
theorem recorded_step {w : Workspace d} (reads : ∀ it ∈ w.iterators, v.Reads it) {step : Step}
    (spares : step.spares = true) : (w.step step).2.recorded = w.recorded := by
  -- The calls that run at once differ in what they compile only.
  have eager (call : EagerCall) (other : call.inserts = false) :
      (w.step (.call call.toCall)).2.recorded = w.recorded := by
    refine call.session_run _ w.statement fun s logs compiled compiles => ?_
    exact call.kept_exchange (kept_lastInsertId lawful _) rfl logs (sparing call other compiles)
  cases step with
  | call call =>
    cases call with
    | get => exact eager .get rfl
    | first => exact eager .first rfl
    | update data => exact eager (.update data) rfl
    | delete => exact eager .delete rfl
    | _ => cases spares
  | morph transform spread =>
    rw [Workspace.step]
    cases w.statement.morph transform spread <;> rfl
  | next index =>
    apply recorded_withIterator reads
    intro it s reads
    exact ((kept_lastInsertId lawful _).next rfl reads w.logs).2
  | rest index =>
    apply recorded_withIterator reads
    intro it s reads
    exact (kept_lastInsertId lawful _).rest rfl reads w.logs
  | stop index =>
    apply recorded_withIterator reads
    intro it s reads
    exact (kept_lastInsertId lawful _).stop rfl reads
  | _ => cases spares

/-- After any steps, reading, changing and removing rows leaves the recorded identifier. -/
theorem recorded_spared (options : Options) (connection : d.Connection) (todo : List Step)
    {step : Step} (spares : step.spares = true) :
    (((Workspace.opened options connection).steps todo).2.step step).2.recorded =
      ((Workspace.opened options connection).steps todo).2.recorded := by
  have opened : ∀ it ∈ (Workspace.opened options connection).iterators, v.Reads it := nofun
  have reads := Workspace.steps_keep (reads_effect lawful sparing) todo opened
  exact recorded_step lawful sparing reads spares

omit sparing in
/-- After any steps, the recorded identifier is the one of the last reply that counts. -/
theorem recorded_steps (options : Options) (connection : d.Connection) (todo : List Step) :
    let w := ((Workspace.opened options connection).steps todo).2
    ∃ s, w.statement.session = some s ∧
      w.recorded = some ((v.view connection).latest v.records (v.executed s)) := by
  intro w
  have opened : (Workspace.opened options connection).Fit v.fits
      (v.Served (v.view connection)) := ⟨⟨_, rfl, rfl⟩, nofun, nofun⟩
  obtain ⟨s, found, served⟩ :=
    (Workspace.steps_keep (Workspace.Fit.effect (kept_served lawful _)) todo opened).session
  refine ⟨s, found, ?_⟩
  rw [← Connection.lastInsertId_served, ← show v.view s.connection = _ from served,
    ← lawful.lastInsertId, Workspace.recorded, found]
  rfl

end Serving

/-- Binding by name, compiled statements other than insertions have no recorded identifier. -/
theorem Named.serving_sparing : Named.serving.Sparing := by
  intro call st compiled other compiles
  refine (inserts_toNamedBinds compiled.sql).trans ?_
  cases call with
  | get => exact State.not_inserts_of_compile compiles
  | first => exact State.not_inserts_of_compile (s := EagerCall.first.target st) compiles
  | insert data => cases other
  | update data => exact State.not_inserts_of_compileUpdate compiles
  | delete => exact State.not_inserts_of_compileDelete compiles

/-- Which identifier is recorded after any steps of a workspace depends on the adapter.

With named binds it is the one of the last text that inserts and was executed with success, and
reading, changing and removing rows leaves it as it is. With positional binds it is the one of the
last text that was executed with success, whatever that text does. -/
theorem recorded_identifier_by_adapter (options : Options) (connection : Connection)
    (todo : List Step) :
    (let w := ((Workspace.opened (d := Named.driver) options connection).steps todo).2
      ∃ s, w.statement.session = some s ∧
        w.recorded = some (connection.latest Named.Prepared.inserts (Named.serving.executed s)) ∧
        ∀ step, step.spares = true → (w.step step).2.recorded = w.recorded) ∧
    let w := ((Workspace.opened (d := Positional.driver) options connection).steps todo).2
    ∃ s, w.statement.session = some s ∧
      w.recorded = some (connection.latest (fun _ => true) (Positional.serving.executed s)) := by
  constructor
  · obtain ⟨s, found, last⟩ :=
      Serving.recorded_steps Named.serving_lawful options connection todo
    refine ⟨s, found, last, fun step => ?_⟩
    exact Serving.recorded_spared Named.serving_lawful Named.serving_sparing options connection todo
  · exact Serving.recorded_steps Positional.serving_lawful options connection todo

/-- A connection that gives an identifier to the first text and none to the second. -/
def identifying : Connection where
  script := [{ lastRowId := .int 7 }, { columns := some ["a"] }]

/-- Steps that insert a row. -/
def insertingSteps : List Step :=
  [.call (.readFrom (.value (.text "t")) (.value .null)),
    .call (.insert (.value (.mapping [(.text "a", .int 1)])))]

/-- With named binds, reading rows after an insertion leaves its identifier. -/
theorem recorded_identifier_by_adapter_named :
    let w := ((Workspace.opened (d := Named.driver) {} identifying).steps insertingSteps).2
    (w.step (.call .get)).2.recorded = w.recorded ∧ w.recorded.map Value.display = some "7" := by
  intro w
  obtain ⟨⟨s, -, -, same⟩, -⟩ := recorded_identifier_by_adapter {} identifying insertingSteps
  exact ⟨same (.call .get) rfl, by decide +kernel⟩

/-- With positional binds, reading rows after an insertion replaces its identifier. -/
theorem reading_replaces_identifier :
    let w := ((Workspace.opened (d := Positional.driver) {} identifying).steps insertingSteps).2
    (w.step (.call .get)).2.recorded ≠ w.recorded := by
  intro w same
  have before : w.recorded.map Value.display = some "7" := by decide +kernel
  have after : (w.step (.call .get)).2.recorded.map Value.display = some "None" := by
    decide +kernel
  rw [same, before] at after
  exact absurd after (by decide)

end SqlBuilder
