import SqlBuilder.Proofs.NamedBinding
import SqlBuilder.Proofs.Pairing
import SqlBuilder.Workspace

/-!
# Programs on paired drivers

When two drivers are paired and what a program compiles can be run on both, the program gives the
same on both, call by call: equal answers, equal states, and corresponding sessions.

* **what is compiled** depends on the options and the state only, which are equal on both sides, so
  a call that does not reach the session has nothing to show but that it keeps them equal;
* **what is run** can be run on both sides: `Pairing.Fits` asks this of everything that a sound
  state compiles, and `Call.run_sound` keeps the state sound;
* **callbacks** may run statements too, on fresh statements that share the session. A `Pairing.Twin`
  is a callback on both sides together with what it takes to do the same; `Arg.twin` makes one of
  every argument, by the mutual induction over calls and lists of calls.
-/

set_option autoImplicit false

namespace SqlBuilder

open Sql (Compiled)

/-! ## Keys of data -/

/-- What is no data has no keys. -/
theorem TextClass.keysHold_null {T : TextClass} : T.KeysHold .null :=
  fun _ found => by cases found

namespace Request

/-- What the callback of a request has to meet. -/
def callbackHolds : Request Prop → Prop
  | group clean | subquery _ _ clean => clean
  | nullTest _ _ | test _ _ _ => True

end Request

mutual

/-- An argument of a call on a statement, where a callback stands for the condition that the keys of
the data it uses are in a class. -/
def Arg.keyed (T : TextClass) {d : Driver} : Arg → Statement d → Operand Prop
  | .value v, _ => .value v
  | .callback calls, st => .callback (Call.AllKeyed T calls st.fresh)

/-- The keys of the data that a call on a statement uses are in a class. -/
def Call.Keyed (T : TextClass) {d : Driver} : Call → Statement d → Prop
  | .readFrom source _, st => (source.keyed T st).callbackHolds
  | .union branch _, st => (branch.keyed T st).callbackHolds
  | .require _ column operator value _, st =>
    (Request.of (column.keyed T st) (operator.keyed T st) (value.keyed T st)).callbackHolds
  | .requireMember operator column values _, st =>
    ∀ items, (values.keyed T st).items = .ok items →
      (Request.of (column.keyed T st) (.value (.text operator)) items).callbackHolds
  | .insert data, _ | .update data, _ => T.KeysHold data.toValue
  | _, _ => True

/-- The keys of the data that calls one after another use are in a class, up to the first call that
fails. -/
def Call.AllKeyed (T : TextClass) {d : Driver} : List Call → Statement d → Prop
  | [], _ => True
  | call :: rest, st =>
    call.Keyed T st ∧
      match call.run st with
      | (.ok _, st) => Call.AllKeyed T rest st
      | (.error _, _) => True

end

namespace Pairing

variable {d d' : Driver} (pairing : Pairing d d')

/-- Corresponding statements: the options and the states are equal, and the sessions correspond. -/
inductive Statements : Statement d → Statement d' → Prop
  /-- Both have a session, or neither has one. -/
  | mk {options : Options} {state : State} {session : Option (Session d)}
    {session' : Option (Session d')} (sessions : Option.Rel pairing.session session session') :
    Statements ⟨options, state, session⟩ ⟨options, state, session'⟩

/-- Equal results that leave corresponding statements. -/
structure Outcomes {α : Type} (left : Outcome d α) (right : Outcome d' α) : Prop where
  /-- The results are the same. -/
  result : left.1 = right.1
  /-- The statements afterwards are paired. -/
  statements : pairing.Statements left.2 right.2

/-- What states in a class compile can be run on both sides. -/
structure Fits (T : TextClass) : Prop where
  /-- Everything that an eager call compiles. -/
  runs : ∀ {s : State} {data : Value} {compiled : Compiled}, s.Sound T → T.KeysHold data →
    s.Compiles data compiled → pairing.runs compiled
  /-- An INSERT generates an identifier. -/
  generates : ∀ {s : State} {data : Value} {compiled : Compiled},
    s.compileInsert data = .ok compiled → pairing.generates compiled

variable {pairing} {st : Statement d} {st' : Statement d'}

/-! ## Methods -/

/-- The same outcomes are paired when both calls give nothing but the statement. -/
theorem Outcomes.self {left : Outcome d Unit} {right : Outcome d' Unit}
    (h : pairing.Outcomes left right) : pairing.Outcomes left.self right.self :=
  ⟨congrArg (Except.map fun _ => Answer.self) h.result, h.statements⟩

/-- Paired outcomes are paired as answers. -/
theorem Outcomes.answer {α : Type} {left : Outcome d α} {right : Outcome d' α}
    (h : pairing.Outcomes left right) (kind : α → Answer) :
    pairing.Outcomes (left.answer kind) (right.answer kind) :=
  ⟨congrArg (Except.map kind) h.result, h.statements⟩

/-- Both sides in full. -/
theorem Outcomes.sides {α : Type} {left : Outcome d α} {right : Outcome d' α}
    (h : pairing.Outcomes left right) : ∃ outcome options state session session',
      left = (outcome, ⟨options, state, session⟩) ∧
        right = (outcome, ⟨options, state, session'⟩) ∧
          Option.Rel pairing.session session session' := by
  obtain ⟨outcome, after⟩ := left
  obtain ⟨outcome', after'⟩ := right
  obtain ⟨result, statements⟩ := h
  cases result
  cases statements with
  | mk sessions => exact ⟨_, _, _, _, _, rfl, rfl, sessions⟩

namespace Statements

/-- Paired statements have the same state. -/
theorem state (h : pairing.Statements st st') : st.state = st'.state := by
  cases h
  rfl

/-- Paired statements have the same options. -/
theorem options (h : pairing.Statements st st') : st.options = st'.options := by
  cases h
  rfl

/-- Paired statements have paired sessions, or both have none. -/
theorem sessions (h : pairing.Statements st st') :
    Option.Rel pairing.session st.session st'.session := by
  cases h with
  | mk sessions => exact sessions

/-- Fresh statements of paired ones are paired. -/
theorem fresh (h : pairing.Statements st st') : pairing.Statements st.fresh st'.fresh := by
  cases h with
  | mk sessions => exact .mk sessions

/-- Paired statements are paired when paired sessions are put in. -/
theorem onSession (h : pairing.Statements st st') {s : Session d} {s' : Session d'}
    (related : pairing.session s s') :
    pairing.Statements { st with session := some s } { st' with session := some s' } := by
  cases h
  exact .mk (.some related)

/-- A change that depends on the options and the state only. -/
theorem change (h : pairing.Statements st st') (state : Except Error State) :
    pairing.Outcomes (st.change state) (st'.change state) := by
  cases state with
  | error e => exact ⟨rfl, h⟩
  | ok state =>
    cases h with
    | mk sessions => exact ⟨rfl, .mk sessions⟩

/-- Selecting columns has paired outcomes on paired statements. -/
theorem select (h : pairing.Statements st st') (arguments : List Value) :
    pairing.Outcomes (st.select arguments) (st'.select arguments) := by
  cases h with
  | mk sessions => exact ⟨rfl, .mk sessions⟩

/-- Grouping has paired outcomes on paired statements. -/
theorem group (h : pairing.Statements st st') (arguments : List Value) :
    pairing.Outcomes (st.group arguments) (st'.group arguments) := by
  cases h with
  | mk sessions => exact ⟨rfl, .mk sessions⟩

/-- Joining has paired outcomes on paired statements. -/
theorem join (h : pairing.Statements st st') (request : JoinRequest) :
    pairing.Outcomes (st.join request) (st'.join request) := by
  unfold Statement.join
  rw [← h.state]
  exact h.change _

/-- Ordering has paired outcomes on paired statements. -/
theorem order (h : pairing.Statements st st') (column direction : Value) :
    pairing.Outcomes (st.order column direction) (st'.order column direction) := by
  unfold Statement.order
  rw [← h.state]
  exact h.change _

/-- Paging has paired outcomes on paired statements. -/
theorem page (h : pairing.Statements st st') (limit offset : Value) :
    pairing.Outcomes (st.page limit offset) (st'.page limit offset) := by
  unfold Statement.page
  rw [← h.state]
  exact h.change _

end Statements

/-! ## Callbacks -/

/-- A callback on both sides, with the conditions under which it does the same. -/
structure Twin (pairing : Pairing d d') (st : Statement d) (st' : Statement d') where
  /-- The callback on one side. -/
  left : Builder d
  /-- The callback on the other side. -/
  right : Builder d'
  /-- The condition on the texts that it interpolates. -/
  clean : Prop
  /-- The condition on the keys of the data that it uses. -/
  keyed : Prop
  /-- On fresh statements it does the same. -/
  alike : clean → keyed → pairing.Outcomes (left st.fresh) (right st'.fresh)

namespace Twin

variable (twin : pairing.Twin st st') (h : pairing.Statements st st') (clean : twin.clean)
  (keyed : twin.keyed)

include h clean keyed

/-- A callback builds the same state. -/
theorem nested : pairing.Outcomes (st.nested twin.left) (st'.nested twin.right) := by
  obtain ⟨_, _, _, _, _, left, right, sessions⟩ := (twin.alike clean keyed).sides
  unfold Statement.nested
  rw [left, right]
  cases h with
  | mk _ => exact ⟨rfl, .mk sessions⟩

/-- A callback compiles the same statement. -/
theorem nestedCompiled :
    pairing.Outcomes (st.nestedCompiled twin.left) (st'.nestedCompiled twin.right) := by
  obtain ⟨result, statements⟩ := twin.nested h clean keyed
  exact ⟨congrArg (Except.bind · State.compile) result, statements⟩

end Twin

namespace Statements

variable (h : pairing.Statements st st')

include h

/-- Reading from a source has paired outcomes on paired statements, if its callbacks have. -/
theorem readFrom {T : TextClass} {source : Operand (pairing.Twin st st')} {aliasName : Value}
    (clean : T.SourceHolds st.options.subqueryAlias aliasName (source.map Twin.clean))
    (keyed : (source.map Twin.keyed).callbackHolds) :
    pairing.Outcomes (st.readFrom (source.map Twin.left) aliasName)
      (st'.readFrom (source.map Twin.right) aliasName) := by
  unfold Statement.readFrom
  rw [← h.state]
  cases st.state.source with
  | some known => exact ⟨rfl, h⟩
  | none =>
    cases source with
    | value reference => exact h.change _
    | callback twin =>
      obtain ⟨_, _, _, _, _, left, right, sessions⟩ :=
        (twin.nestedCompiled h clean.1 keyed).sides
      simp only [Operand.map, left, right]
      exact (Statements.mk sessions).change _

/-- A union has paired outcomes on paired statements, if its callbacks have. -/
theorem union {branch : Operand (pairing.Twin st st')}
    (clean : (branch.map Twin.clean).callbackHolds)
    (keyed : (branch.map Twin.keyed).callbackHolds) (kind : Value) :
    pairing.Outcomes (st.union (branch.map Twin.left) kind)
      (st'.union (branch.map Twin.right) kind) := by
  cases branch with
  | value v => exact ⟨rfl, h⟩
  | callback twin =>
    obtain ⟨_, _, _, _, _, left, right, sessions⟩ := (twin.nestedCompiled h clean keyed).sides
    simp only [Statement.union, Operand.map, left, right]
    exact (Statements.mk sessions).change _

/-- The condition that a request asks for. -/
theorem resolve {T : TextClass} {request : Request (pairing.Twin st st')}
    (clean : T.RequestHolds (request.map Twin.clean))
    (keyed : (request.map Twin.keyed).callbackHolds) (emptyGroup : String)
    (clause : Option String) (connector : Value) :
    pairing.Outcomes (st.resolve emptyGroup clause connector (request.map Twin.left))
      (st'.resolve emptyGroup clause connector (request.map Twin.right)) := by
  cases request with
  | group twin =>
    obtain ⟨_, _, _, _, _, left, right, sessions⟩ := (twin.nested h clean keyed).sides
    simp only [Request.map, Statement.resolve, left, right]
    exact ⟨rfl, .mk sessions⟩
  | nullTest column operator => exact ⟨rfl, h⟩
  | subquery column operator twin =>
    obtain ⟨_, _, _, _, _, left, right, sessions⟩ :=
      (twin.nestedCompiled h clean.2.2 keyed).sides
    simp only [Request.map, Statement.resolve, left, right]
    exact ⟨rfl, .mk sessions⟩
  | test column operator value => exact ⟨rfl, h⟩

/-- A test has paired outcomes on paired statements, if its callbacks have. -/
theorem require {T : TextClass} {column operator value : Operand (pairing.Twin st st')}
    (clean : T.RequestHolds
      (Request.of (column.map Twin.clean) (operator.map Twin.clean) (value.map Twin.clean)))
    (keyed : (Request.of (column.map Twin.keyed) (operator.map Twin.keyed)
      (value.map Twin.keyed)).callbackHolds) (clause : Clause) (connector : Value) :
    pairing.Outcomes
      (st.require clause (column.map Twin.left) (operator.map Twin.left) (value.map Twin.left)
        connector)
      (st'.require clause (column.map Twin.right) (operator.map Twin.right) (value.map Twin.right)
        connector) := by
  rw [Request.of_map] at clean keyed
  unfold Statement.require
  split
  · exact ⟨rfl, h⟩
  · rename_i k _
    obtain ⟨_, _, _, _, _, left, right, sessions⟩ :=
      (h.resolve clean keyed st.options.emptyGroup (some clause.name)
        (Condition.connectorField k)).sides
    rw [Request.of_map, Request.of_map, ← h.options, left, right]
    exact (Statements.mk sessions).change _

/-- A test for membership has paired outcomes on paired statements, if its callbacks have. -/
theorem requireMember {T : TextClass} {operator : String}
    {column values : Operand (pairing.Twin st st')}
    (clean : ∀ items, (values.map Twin.clean).items = .ok items →
      T.RequestHolds (Request.of (column.map Twin.clean) (.value (.text operator)) items))
    (keyed : ∀ items, (values.map Twin.keyed).items = .ok items →
      (Request.of (column.map Twin.keyed) (.value (.text operator)) items).callbackHolds)
    (connector : Value) :
    pairing.Outcomes
      (st.requireMember operator (column.map Twin.left) (values.map Twin.left) connector)
      (st'.requireMember operator (column.map Twin.right) (values.map Twin.right) connector) := by
  rw [Statement.requireMember_eq, Statement.requireMember_eq]
  simp only [Operand.items_map] at clean keyed ⊢
  cases items : values.items with
  | error e => exact ⟨rfl, h⟩
  | ok argument =>
    rw [items] at clean keyed
    let keyword : Operand (pairing.Twin st st') := .value (.text operator)
    have clean : T.RequestHolds (Request.of (column.map Twin.clean) (keyword.map Twin.clean)
      (argument.map Twin.clean)) := clean _ rfl
    exact h.require clean (keyed _ rfl) .rows connector

/-! ## Running -/

variable {T : TextClass} (fits : pairing.Fits T) (sound : st.Sound T)

include fits sound

/-- Running what a statement compiles, which can be run on both sides. -/
theorem running {α : Type} {data : Value} (keys : T.KeysHold data)
    {compiled : Except Error Compiled}
    (among : compiled ∈ [st.state.compile, st.state.compileInsert data,
      st.state.compileUpdate data, st.state.compileDelete])
    {run : Session d → Bool → Compiled → Except Error α × Session d}
    {run' : Session d' → Bool → Compiled → Except Error α × Session d'}
    (same : ∀ {c s s'} logs, compiled = .ok c → pairing.runs c → pairing.session s s' →
      (run s logs c).1 = (run' s' logs c).1 ∧ pairing.session (run s logs c).2 (run' s' logs c).2) :
    pairing.Outcomes (st.running compiled run) (st'.running compiled run') := by
  cases compiles : compiled with
  | error e =>
    cases h with
    | mk sessions => exact ⟨rfl, .mk sessions⟩
  | ok c =>
    rw [compiles] at among
    have runs : pairing.runs c := fits.runs sound.state keys among
    cases h with
    | mk sessions =>
      cases sessions with
      | none => exact ⟨rfl, .mk .none⟩
      | some related =>
        obtain ⟨result, after⟩ := same _ compiles runs related
        exact ⟨result, .mk (.some after)⟩

/-- Reading all rows has paired outcomes on paired statements. -/
theorem get : pairing.Outcomes st.get st'.get := by
  unfold Statement.get
  rw [← h.state]
  apply h.running fits sound TextClass.keysHold_null (by simp)
  intro c s s' logs _ runs sessions
  exact pairing.fetchAll sessions runs logs

/-- Paired statements give paired iterators, or fail in the same way. -/
theorem morph (transform : Transform) (spread : Bool) :
    Corresponds pairing.Iterators (st.morph transform spread) (st'.morph transform spread) := by
  have sessions := h.sessions
  unfold Statement.morph
  rw [← h.state]
  generalize st.session = session at sessions ⊢
  generalize st'.session = session' at sessions ⊢
  cases compiles : st.state.compile with
  | error e => exact .error e
  | ok c =>
    cases sessions with
    | none => exact .error .noDriver
    | some _ =>
      have compiled : st.state.Compiles .null c := by simp [State.Compiles, compiles]
      exact .ok (.pending (fits.runs sound.state TextClass.keysHold_null compiled) transform spread)

/-- Reading the first row has paired outcomes on paired statements. -/
theorem first : pairing.Outcomes st.first st'.first := by
  have limited : pairing.Statements
      { st with state := { st.state with limit := some (.int 1) } }
      { st' with state := { st'.state with limit := some (.int 1) } } := by
    cases h with
    | mk sessions => exact .mk sessions
  obtain ⟨result, statements⟩ := limited.get fits sound.limited
  exact ⟨congrArg (Except.map List.head?) result, statements⟩

/-- Deleting has paired outcomes on paired statements. -/
theorem delete : pairing.Outcomes st.delete st'.delete := by
  unfold Statement.delete
  rw [← h.state]
  apply h.running fits sound TextClass.keysHold_null (by simp)
  intro c s s' logs _ runs sessions
  exact pairing.affect sessions runs logs

variable {data : Value} (keys : T.KeysHold data)

include keys

/-- Inserting has paired outcomes on paired statements, where an INSERT gives its identifier. -/
theorem insert : pairing.Outcomes (st.insert data) (st'.insert data) := by
  unfold Statement.insert
  rw [← h.state]
  apply h.running fits sound keys (by simp)
  intro c s s' logs compiles runs sessions
  exact pairing.insert sessions runs logs (fits.generates compiles)

/-- Updating has paired outcomes on paired statements. -/
theorem update : pairing.Outcomes (st.update data) (st'.update data) := by
  unfold Statement.update
  rw [← h.state]
  apply h.running fits sound keys (by simp)
  intro c s s' logs _ runs sessions
  exact pairing.affect sessions runs logs

end Statements

end Pairing

/-! ## Programs -/

section Programs

variable {d d' : Driver} {pairing : Pairing d d'} {T : TextClass}

mutual

/-- An argument on both sides: a callback does the same on fresh statements. -/
theorem Arg.twin (fits : pairing.Fits T) (argument : Arg) {st : Statement d} {st' : Statement d'}
    (h : pairing.Statements st st') (holds : T.Holds st.options.emptyGroup) :
    ∃ twin : Operand (pairing.Twin st st'), argument.denote = twin.map Pairing.Twin.left ∧
      argument.denote = twin.map Pairing.Twin.right ∧
        argument.promise T st = twin.map Pairing.Twin.clean ∧
          argument.keyed T st = twin.map Pairing.Twin.keyed := by
  cases argument with
  | value v => exact ⟨.value v, rfl, rfl, rfl, rfl⟩
  | callback calls =>
    -- A fresh statement is sound whatever was done to the one that the callback is given to.
    have alike (clean : Call.AllClean T calls st.fresh) (keyed : Call.AllKeyed T calls st.fresh) :
        pairing.Outcomes (Call.runAll calls st.fresh) (Call.runAll calls st'.fresh) :=
      Call.alikeAll fits calls h.fresh ⟨holds, State.sound_empty⟩ clean keyed
    exact ⟨.callback ⟨Call.runAll calls, Call.runAll calls, _, _, alike⟩, rfl, rfl, rfl, rfl⟩

/-- A call gives the same on both sides. -/
theorem Call.alike (fits : pairing.Fits T) (call : Call) {st : Statement d} {st' : Statement d'}
    (h : pairing.Statements st st') (sound : st.Sound T) (clean : call.Clean T st)
    (keyed : call.Keyed T st) : pairing.Outcomes (call.run st) (call.run st') := by
  have holds := sound.emptyGroup
  cases call with
  | select columns => exact (h.select _).self
  | readFrom source aliasName =>
    obtain ⟨twin, left, right, promised, keys⟩ := source.twin fits h holds
    rw [Call.Clean, promised] at clean
    rw [Call.Keyed, keys] at keyed
    rw [Call.run, Call.run, left, right]
    exact (h.readFrom clean keyed).self
  | join table first operator second kind shared => exact (h.join _).self
  | union branch kind =>
    obtain ⟨twin, left, right, promised, keys⟩ := branch.twin fits h holds
    rw [Call.Clean, promised] at clean
    rw [Call.Keyed, keys] at keyed
    rw [Call.run, Call.run, left, right]
    exact (h.union clean keyed _).self
  | require clause column operator value connector =>
    obtain ⟨c, left, right, promised, keys⟩ := column.twin fits h holds
    obtain ⟨o, left', right', promised', keys'⟩ := operator.twin fits h holds
    obtain ⟨v, left'', right'', promised'', keys''⟩ := value.twin fits h holds
    rw [Call.Clean, promised, promised', promised''] at clean
    rw [Call.Keyed, keys, keys', keys''] at keyed
    rw [Call.run, Call.run, left, left', left'', right, right', right'']
    exact (h.require clean keyed clause _).self
  | requireMember operator column values connector =>
    obtain ⟨c, left, right, promised, keys⟩ := column.twin fits h holds
    obtain ⟨v, left', right', promised', keys'⟩ := values.twin fits h holds
    rw [Call.Clean, promised, promised'] at clean
    rw [Call.Keyed, keys, keys'] at keyed
    rw [Call.run, Call.run, left, left', right, right']
    exact (h.requireMember clean keyed _).self
  | group columns => exact (h.group _).self
  | order column direction => exact (h.order _ _).self
  | page limit offset => exact (h.page _ _).self
  | get => exact (h.get fits sound).answer .rows
  | first => exact (h.first fits sound).answer .row
  | insert data => exact (h.insert fits sound keyed).answer .identifier
  | update data => exact (h.update fits sound keyed).answer .count
  | delete => exact (h.delete fits sound).answer .count
  | rejected error => exact ⟨rfl, h⟩
  | _ =>
    cases h with
    | mk sessions => exact ⟨rfl, .mk sessions⟩

/-- Calls one after another give the same on both sides. -/
theorem Call.alikeAll (fits : pairing.Fits T) (calls : List Call) {st : Statement d}
    {st' : Statement d'} (h : pairing.Statements st st') (sound : st.Sound T)
    (clean : Call.AllClean T calls st) (keyed : Call.AllKeyed T calls st) :
    pairing.Outcomes (Call.runAll calls st) (Call.runAll calls st') := by
  cases calls with
  | nil => exact ⟨rfl, h⟩
  | cons call rest =>
    have first := call.alike fits h sound clean.1 keyed.1
    -- The conditions on the later calls speak of the statement that the first call leaves on the
    -- left; the one on the right has the same state.
    have kept := call.run_sound st sound clean.1
    have cleanLater := clean.2
    have keyedLater := keyed.2
    obtain ⟨outcome, _, _, _, _, left, right, sessions⟩ := first.sides
    rw [Call.runAll, Call.runAll, left, right]
    rw [left] at kept cleanLater keyedLater
    cases outcome with
    | error e => exact ⟨rfl, .mk sessions⟩
    | ok answer => exact Call.alikeAll fits rest (.mk sessions) kept cleanLater keyedLater

end

end Programs

end SqlBuilder
