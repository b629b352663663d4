import SqlBuilder.Statement.Call

/-!
# Calls and the session

A call reaches the session of its statement only through whole exchanges: reading all rows, an
insertion or a mutation, also in callbacks. So what holds between the sessions before and after
every exchange, and can be chained, holds between the sessions before and after every call.
-/

set_option autoImplicit false

namespace SqlBuilder

variable {d : Driver}

/-- A relation between the sessions before and after that can be chained and holds for every
exchange. -/
structure Session.Chained (R : Session d → Session d → Prop) : Prop where
  /-- It holds when nothing happens. -/
  refl : ∀ s, R s s
  /-- It can be chained. -/
  trans : ∀ {s s' s''}, R s s' → R s' s'' → R s s''
  /-- It holds when all rows are read. -/
  fetchAll : ∀ s logs compiled, R s (s.fetchAll logs compiled).2
  /-- It holds for an insertion. -/
  insert : ∀ s logs compiled, R s (s.insert logs compiled).2
  /-- It holds for a mutation. -/
  affect : ∀ s logs compiled, R s (s.affect logs compiled).2

variable {R : Session d → Session d → Prop}

namespace Statement

/-- A statement keeps its session, and the relation holds between before and after. -/
def Leads (R : Session d → Session d → Prop) (st st' : Statement d) : Prop :=
  ∀ s, st.session = some s → ∃ s', st'.session = some s' ∧ R s s'

/-- A statement whose session is the same. -/
theorem leads_of_eq (chained : Session.Chained R) {st st' : Statement d}
    (h : st'.session = st.session) : Leads R st st' :=
  fun s hs => ⟨s, h.trans hs, chained.refl s⟩

/-- Statements one after another. -/
theorem Leads.trans (chained : Session.Chained R) {st st' st'' : Statement d}
    (h : Leads R st st') (h' : Leads R st' st'') : Leads R st st'' := by
  intro s hs
  obtain ⟨s', hs', early⟩ := h s hs
  obtain ⟨s'', hs'', late⟩ := h' s' hs'
  exact ⟨s'', hs'', chained.trans early late⟩

/-- A change of the state does not reach the session. -/
theorem session_change (st : Statement d) (state : Except Error State) :
    (st.change state).2.session = st.session := by
  cases state <;> rfl

end Statement

/-- A callback that reaches the session as the relation allows. -/
def Argument.Leads (R : Session d → Session d → Prop) : Argument d → Prop
  | .value _ => True
  | .callback build => ∀ st, Statement.Leads R st (build st).2

/-- A plain value does not reach the session. -/
theorem Argument.leads_value (v : Value) : Argument.Leads R (.value v) :=
  trivial

/-- A request whose callback reaches the session as the relation allows. -/
def Request.Leads (R : Session d → Session d → Prop) : Request (Builder d) → Prop
  | .group build | .subquery _ _ build => ∀ st, Statement.Leads R st (build st).2
  | .nullTest _ _ | .test _ _ _ => True

/-- An argument is one over callbacks that reach the session as the relation allows. -/
theorem Argument.Leads.over {argument : Argument d} (h : Argument.Leads R argument) :
    ∃ known : Operand { build : Builder d // ∀ st, Statement.Leads R st (build st).2 },
      argument = known.map Subtype.val := by
  cases argument with
  | value v => exact ⟨.value v, rfl⟩
  | callback build => exact ⟨.callback ⟨build, h⟩, rfl⟩

/-- What three arguments ask for reaches the session as they do. -/
theorem Request.leads_of {column operator value : Argument d} (hc : Argument.Leads R column)
    (ho : Argument.Leads R operator) (hv : Argument.Leads R value) :
    Request.Leads R (.of column operator value) := by
  obtain ⟨column, rfl⟩ := hc.over
  obtain ⟨operator, rfl⟩ := ho.over
  obtain ⟨value, rfl⟩ := hv.over
  rw [Request.of_map]
  cases Request.of column operator value with
  | group build => exact build.property
  | nullTest column operator => trivial
  | subquery column operator build => exact build.property
  | test column operator value => trivial

namespace Statement

variable (chained : Session.Chained R) (st : Statement d)

include chained

/-- Setting the source reaches the session as the callback does. -/
theorem leads_readFrom {source : Argument d} (h : Argument.Leads R source) (aliasName : Value) :
    Leads R st (st.readFrom source aliasName).2 := by
  unfold readFrom
  split
  · exact leads_of_eq chained rfl
  · split
    · exact leads_of_eq chained (session_change _ _)
    · intro s hs
      rw [session_change]
      exact h st.fresh s hs

/-- A union reaches the session as the callback does. -/
theorem leads_union {branch : Argument d} (h : Argument.Leads R branch) (kind : Value) :
    Leads R st (st.union branch kind).2 := by
  unfold union
  split
  · exact leads_of_eq chained rfl
  · intro s hs
    rw [session_change]
    exact h st.fresh s hs

/-- Resolving a request reaches the session as its callback does. -/
theorem leads_resolve (emptyGroup : String) (clause : Option String) (connector : Value)
    {request : Request (Builder d)} (h : Request.Leads R request) :
    Leads R st (st.resolve emptyGroup clause connector request).2 := by
  cases request with
  | group build => exact fun s hs => h st.fresh s hs
  | nullTest column operator => exact leads_of_eq chained rfl
  | subquery column operator build => exact fun s hs => h st.fresh s hs
  | test column operator value => exact leads_of_eq chained rfl

/-- A condition reaches the session as its callbacks do. -/
theorem leads_require (clause : Clause) {column operator value : Argument d}
    (hc : Argument.Leads R column) (ho : Argument.Leads R operator)
    (hv : Argument.Leads R value) (connector : Value) :
    Leads R st (st.require clause column operator value connector).2 := by
  unfold require
  split
  · exact leads_of_eq chained rfl
  · intro s hs
    rw [session_change]
    exact leads_resolve chained st _ _ _ (Request.leads_of hc ho hv) s hs

/-- A membership test reaches the session as its callbacks do. -/
theorem leads_requireMember (operator : String) {column values : Argument d}
    (hc : Argument.Leads R column) (hv : Argument.Leads R values) (connector : Value) :
    Leads R st (st.requireMember operator column values connector).2 := by
  cases values with
  | callback build => exact leads_require chained st .rows hc (Argument.leads_value _) hv connector
  | value v =>
    rw [requireMember]
    cases v.items with
    | error e => exact leads_of_eq chained rfl
    | ok items =>
      exact leads_require chained st .rows hc (Argument.leads_value _) (Argument.leads_value _)
        connector

/-- Running a compiled statement reaches the session by one exchange. -/
theorem leads_running {α : Type} (compiled : Except Error Sql.Compiled)
    {run : Session d → Bool → Sql.Compiled → Except Error α × Session d}
    (h : ∀ s logs compiled, R s (run s logs compiled).2) :
    Leads R st (st.running compiled run).2 := by
  unfold running
  split
  · exact leads_of_eq chained rfl
  · exact leads_of_eq chained rfl
  · rename_i compiled session found
    intro s hs
    rw [found] at hs
    exact ⟨_, rfl, Option.some.inj hs ▸ h session _ compiled⟩

/-- Reading the first row reaches the session by one exchange. -/
theorem leads_first : Leads R st st.first.2 := by
  have limited := leads_running chained
    { st with state := { st.state with limit := some (.int 1) } }
    { st.state with limit := some (.int 1) }.compile chained.fetchAll
  exact fun s hs => limited s hs

omit chained in
/-- A new iterator was not pulled yet; it holds the compiled statement. -/
theorem of_morph {transform : Transform} {spread : Bool} {it : RowIterator d}
    (h : st.morph transform spread = .ok it) :
    ∃ compiled, st.state.compile = .ok compiled ∧ it = .pending compiled transform spread := by
  unfold morph at h
  split at h
  · cases h
  · cases h
  · rename_i compiled session compiles present
    exact ⟨compiled, compiles, (Except.ok.inj h).symm⟩

end Statement

/-! ## Programs -/

mutual

/-- A callback argument reaches the session only by exchanges. -/
theorem Arg.leads (chained : Session.Chained R) (argument : Arg) :
    Argument.Leads R argument.denote := by
  cases argument with
  | value v => trivial
  | callback calls => exact fun st => Call.leads_runAll chained calls st

/-- A call reaches the session only by exchanges. -/
theorem Call.leads_run (chained : Session.Chained R) (call : Call) (st : Statement d) :
    Statement.Leads R st (call.run st).2 := by
  -- Only the calls that run something reach the session, and those with callbacks as far as these
  -- do.
  cases call with
  | readFrom source aliasName => exact Statement.leads_readFrom chained st (source.leads chained) _
  | join table first operator second kind shared =>
    exact Statement.leads_of_eq chained (Statement.session_change _ _)
  | union branch kind => exact Statement.leads_union chained st (branch.leads chained) _
  | require clause column operator value connector =>
    exact Statement.leads_require chained st clause (column.leads chained)
      (operator.leads chained) (value.leads chained) _
  | requireMember operator column values connector =>
    exact Statement.leads_requireMember chained st operator (column.leads chained)
      (values.leads chained) _
  | order column direction => exact Statement.leads_of_eq chained (Statement.session_change _ _)
  | page limit offset => exact Statement.leads_of_eq chained (Statement.session_change _ _)
  | get => exact Statement.leads_running chained st st.state.compile chained.fetchAll
  | first => exact Statement.leads_first chained st
  | insert data =>
    exact Statement.leads_running chained st (st.state.compileInsert data.toValue) chained.insert
  | update data =>
    exact Statement.leads_running chained st (st.state.compileUpdate data.toValue) chained.affect
  | delete => exact Statement.leads_running chained st st.state.compileDelete chained.affect
  | _ => exact Statement.leads_of_eq chained rfl

/-- Calls one after another reach the session only by exchanges. -/
theorem Call.leads_runAll (chained : Session.Chained R) (calls : List Call) (st : Statement d) :
    Statement.Leads R st (Call.runAll calls st).2 := by
  cases calls with
  | nil => exact Statement.leads_of_eq chained rfl
  | cons call rest =>
    have first := call.leads_run chained st
    rw [Call.runAll]
    cases made : call.run st with
    | mk outcome st' =>
      rw [made] at first
      cases outcome with
      | error e => exact first
      | ok answer => exact first.trans chained (Call.leads_runAll chained rest st')

end

end SqlBuilder
