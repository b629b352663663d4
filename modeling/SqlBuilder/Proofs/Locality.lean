import SqlBuilder.Proofs.Composition
import SqlBuilder.Proofs.DataIndependence
import SqlBuilder.Proofs.Moves
import SqlBuilder.Proofs.Sessions

/-!
# Calls see only their own part

What a building call does depends on the options, the session and the part of the state that it is
about: on statements that agree there it has the same outcome and leaves them in agreement. Of all
calls only a join that infers its columns reads another part, the source. A call that reaches no
driver, not even in a callback, keeps the session.
-/

set_option autoImplicit false

namespace SqlBuilder

open Sql (Compiled)

variable {d : Driver}

/-! ## What stays -/

/-- A statement with the options and the session of another one. -/
structure Statement.Keeps (st st' : Statement d) : Prop where
  /-- The options. -/
  options : st'.options = st.options
  /-- The session. -/
  session : st'.session = st.session

/-- A callback argument that keeps options and session. -/
def Argument.Keeps : Argument d → Prop
  | .value _ => True
  | .callback build => ∀ st, Statement.Keeps st (build st).2

/-- A request whose callback keeps options and session. -/
def Request.Keeps : Request (Builder d) → Prop
  | .group build | .subquery _ _ build => ∀ st, Statement.Keeps st (build st).2
  | .nullTest _ _ | .test _ _ _ => True

/-- An argument whose callback keeps options and session, as one whose callbacks are known to. -/
theorem Argument.Keeps.over {argument : Argument d} (h : Argument.Keeps argument) :
    ∃ known : Operand { build : Builder d // ∀ st, Statement.Keeps st (build st).2 },
      argument = known.map Subtype.val := by
  cases argument with
  | value v => exact ⟨.value v, rfl⟩
  | callback build => exact ⟨.callback ⟨build, h⟩, rfl⟩

/-- What three arguments ask for keeps options and session if they do. -/
theorem Request.keeps_of {column operator value : Argument d} (hc : Argument.Keeps column)
    (ho : Argument.Keeps operator) (hv : Argument.Keeps value) :
    Request.Keeps (.of column operator value) := by
  obtain ⟨column, rfl⟩ := hc.over
  obtain ⟨operator, rfl⟩ := ho.over
  obtain ⟨value, rfl⟩ := hv.over
  rw [Request.of_map]
  cases Request.of column operator value with
  | group build => exact build.property
  | nullTest column operator => trivial
  | subquery column operator build => exact build.property
  | test column operator value => trivial

namespace Statement

variable {st st' st'' : Statement d}

/-- A statement has its own options and session. -/
theorem Keeps.refl (st : Statement d) : st.Keeps st :=
  ⟨rfl, rfl⟩

/-- Having the options and the session of another statement is transitive. -/
theorem Keeps.trans (h : st.Keeps st') (h' : st'.Keeps st'') : st.Keeps st'' :=
  ⟨h'.options.trans h.options, h'.session.trans h.session⟩

/-- Changing the state keeps options and session. -/
theorem Keeps.change (h : st.Keeps st') (state : Except Error State) :
    st.Keeps (st'.change state).2 := by
  cases state <;> exact ⟨h.options, h.session⟩

/-- Running a callback keeps the options; it keeps the session if the callback does. -/
theorem keeps_nested {build : Builder d} (h : ∀ st, Keeps st (build st).2) :
    st.Keeps (st.nested build).2 :=
  ⟨rfl, (h st.fresh).session⟩

/-- Reading from a source keeps options and session, if its callback does. -/
theorem keeps_readFrom {source : Argument d} (h : Argument.Keeps source) (aliasName : Value) :
    st.Keeps (st.readFrom source aliasName).2 := by
  unfold readFrom
  split
  · exact .refl st
  · split
    · exact (Keeps.refl st).change _
    · exact (keeps_nested h).change _

/-- A union keeps options and session, if its callback does. -/
theorem keeps_union {branch : Argument d} (h : Argument.Keeps branch) (kind : Value) :
    st.Keeps (st.union branch kind).2 := by
  unfold union
  split
  · exact .refl st
  · exact (keeps_nested h).change _

/-- Resolving a request keeps options and session, if its callback does. -/
theorem keeps_resolve {request : Request (Builder d)} (h : Request.Keeps request)
    (emptyGroup : String) (clause : Option String) (connector : Value) :
    st.Keeps (st.resolve emptyGroup clause connector request).2 := by
  cases request with
  | group build => exact keeps_nested h
  | nullTest column operator => exact .refl st
  | subquery column operator build => exact keeps_nested h
  | test column operator value => exact .refl st

/-- A test keeps options and session, if its callbacks do. -/
theorem keeps_require {column operator value : Argument d} (hc : Argument.Keeps column)
    (ho : Argument.Keeps operator) (hv : Argument.Keeps value) (clause : Clause)
    (connector : Value) : st.Keeps (st.require clause column operator value connector).2 := by
  unfold require
  split
  · exact .refl st
  · exact (keeps_resolve (Request.keeps_of hc ho hv) _ _ _).change _

/-- A test for membership keeps options and session, if its callbacks do. -/
theorem keeps_requireMember {column values : Argument d} (hc : Argument.Keeps column)
    (hv : Argument.Keeps values) (operator : String) (connector : Value) :
    st.Keeps (st.requireMember operator column values connector).2 := by
  cases values with
  | callback build =>
    exact keeps_require hc (by trivial) (by exact hv) .rows connector
  | value v =>
    rw [requireMember_eq, Operand.items]
    cases v.items with
    | error e => exact .refl st
    | ok items => exact keeps_require hc (by trivial) (by trivial) .rows connector

end Statement

mutual

/-- A callback that reaches no driver keeps options and session. -/
theorem Arg.keeps {argument : Arg} (h : argument.isOffline = true) :
    Argument.Keeps (d := d) argument.denote := by
  cases argument with
  | value v => trivial
  | callback calls => exact fun st => Call.keeps_runAll h st

/-- A call that reaches no driver keeps options and session. -/
theorem Call.keeps_run {call : Call} (h : call.isOffline = true) (st : Statement d) :
    st.Keeps (call.run st).2 := by
  cases call with
  | readFrom source aliasName => exact Statement.keeps_readFrom (Arg.keeps h) _
  | join table first operator second kind shared => exact (Statement.Keeps.refl st).change _
  | union branch kind => exact Statement.keeps_union (Arg.keeps h) _
  | require clause column operator value connector =>
    have ⟨columns, values⟩ := Bool.and_eq_true_iff.1 h
    have ⟨column, operator⟩ := Bool.and_eq_true_iff.1 columns
    exact Statement.keeps_require (Arg.keeps column) (Arg.keeps operator) (Arg.keeps values) _ _
  | requireMember operator column values connector =>
    have ⟨column, values⟩ := Bool.and_eq_true_iff.1 h
    exact Statement.keeps_requireMember (Arg.keeps column) (Arg.keeps values) _ _
  | order column direction =>
    exact (Statement.Keeps.refl st).change _
  | page limit offset => exact (Statement.Keeps.refl st).change _
  | get => cases h
  | first => cases h
  | insert data => cases h
  | update data => cases h
  | delete => cases h
  | _ => exact ⟨rfl, rfl⟩

/-- Calls that reach no driver keep options and session. -/
theorem Call.keeps_runAll {calls : List Call} (h : Call.allOffline calls = true)
    (st : Statement d) : st.Keeps (Call.runAll calls st).2 := by
  cases calls with
  | nil => exact .refl st
  | cons call rest =>
    have ⟨offline, later⟩ := Bool.and_eq_true_iff.1 h
    have first := Call.keeps_run offline st
    rw [Call.runAll]
    cases made : call.run st with
    | mk outcome st' =>
      rw [made] at first
      cases outcome with
      | error e => exact first
      | ok answer => exact first.trans (Call.keeps_runAll later st')

end

/-! ## Joins and the source -/

namespace JoinRequest

/-- A join that infers a compared column from the source. -/
structure Infers (r : JoinRequest) : Prop where
  /-- No columns are shared. -/
  unshared : r.shared = .null
  /-- A compared column is missing. -/
  missing : r.first = .null ∨ r.second = .null
  /-- The kind needs a match. -/
  conditional : ∀ kind, kindText r.kind = .ok kind → isUnconditional kind = false

/-- A join whose columns are shared or given is matched in the same way on every source. -/
theorem matching_of_given {r : JoinRequest}
    (h : r.shared = .null → r.first ≠ .null ∧ r.second ≠ .null) (source source' : Option Source) :
    r.matching source = r.matching source' := by
  unfold matching
  split
  · rename_i unshared
    obtain ⟨first, second⟩ := h unshared
    have compared (source : Option Source) : r.comparedColumns source = r.givenColumns := by
      rcases r.comparedColumns_eq source with ⟨-, missing | missing⟩ | ⟨same, -⟩
      · exact absurd missing first
      · exact absurd missing second
      · exact same
    rw [compared, compared]
  · rfl

/-- A join that does not infer its columns is the same on every source. -/
theorem render_of_not_infers {r : JoinRequest} (h : ¬r.Infers) (source source' : Option Source) :
    r.render source = r.render source' := by
  unfold render
  cases known : kindText r.kind with
  | error e => rfl
  | ok kind =>
    by_cases unconditional : isUnconditional kind = true
    · simp only [bind, Except.bind, ending, if_pos unconditional]
    · have given : r.shared = .null → r.first ≠ .null ∧ r.second ≠ .null := by
        intro unshared
        have conditional : ∀ kind', kindText r.kind = .ok kind' →
            isUnconditional kind' = false := by
          intro kind' same
          obtain rfl := Except.ok.inj (known.symm.trans same)
          exact Bool.eq_false_iff.2 unconditional
        exact ⟨fun missing => h ⟨unshared, .inl missing, conditional⟩,
          fun missing => h ⟨unshared, .inr missing, conditional⟩⟩
      simp only [bind, Except.bind, ending, if_neg unconditional,
        matching_of_given given source source']

end JoinRequest

/-- A call that infers a column from the source. -/
def Call.Infers : Call → Prop
  | .join table firstColumn operator secondColumn kind shared =>
    JoinRequest.Infers
      { table := table.toValue
        first := firstColumn.toValue
        operator := operator.toValue
        second := secondColumn.toValue
        kind := kind.toValue
        shared := shared.toValue }
  | _ => False

/-! ## Agreement on a part -/

/-- Statements that have the same options, the same session and the same content of a part. -/
structure Statement.Agree (part : Part) (st st' : Statement d) : Prop where
  /-- The options. -/
  options : st.options = st'.options
  /-- The session. -/
  session : st.session = st'.session
  /-- The content of the part. -/
  content : st.state.content part = st'.state.content part

/-- The same outcome on statements that agree afterwards. -/
structure Outcome.Alike (part : Part) {α : Type} (x y : Outcome d α) : Prop where
  /-- The outcome. -/
  outcome : x.1 = y.1
  /-- The statements afterwards. -/
  agree : Statement.Agree part x.2 y.2

namespace Statement

variable {part : Part} {st st' st'' : Statement d}

/-- A statement agrees with itself. -/
theorem Agree.refl (part : Part) (st : Statement d) : Agree part st st :=
  ⟨rfl, rfl, rfl⟩

/-- Statements in agreement are given to callbacks as the same fresh statement. -/
theorem Agree.fresh (h : Agree part st st') : st.fresh = st'.fresh := by
  rw [Statement.fresh, Statement.fresh, h.options, h.session]

/-- A callback gives statements in agreement the same state. -/
theorem Agree.nested (h : Agree part st st') (build : Builder d) :
    Outcome.Alike part (st.nested build) (st'.nested build) := by
  refine ⟨?_, h.options, ?_, h.content⟩
  · rw [Statement.nested, Statement.nested, h.fresh]
  · rw [Statement.nested, Statement.nested, h.fresh]

/-- A callback gives statements in agreement the same compiled statement. -/
theorem Agree.nestedCompiled (h : Agree part st st') (build : Builder d) :
    Outcome.Alike part (st.nestedCompiled build) (st'.nestedCompiled build) :=
  ⟨congrArg (·.bind State.compile) (h.nested build).outcome, (h.nested build).agree⟩

/-- Changes that give the part the same content keep statements in agreement. -/
theorem Agree.change (h : Agree part st st') {α : Type} {x x' : Except Error α} (same : x = x')
    {f g : α → State} (content : ∀ a, (f a).content part = (g a).content part) :
    Outcome.Alike part (st.change (x.map f)) (st'.change (x'.map g)) := by
  subst same
  cases x with
  | error e => exact ⟨rfl, h⟩
  | ok a => exact ⟨rfl, h.options, h.session, content a⟩

/-- The source is set in the same way where the same source is known. -/
theorem alike_readFrom (h : Agree .source st st') (source : Argument d) (aliasName : Value) :
    Outcome.Alike .source (st.readFrom source aliasName) (st'.readFrom source aliasName) := by
  have known : st.state.source = st'.state.source := h.content
  unfold readFrom
  rw [known]
  cases st'.state.source with
  | some source => exact ⟨rfl, h⟩
  | none =>
    cases source with
    | value reference => exact h.change rfl fun _ => rfl
    | callback build =>
      have built := h.nestedCompiled build
      have options := built.agree.options
      have shape (s : State) (compiled : Except Error Compiled) (name : Value) :
          (do
            let compiled ← compiled
            Value.requireWritable [name]
            .ok (withSource s (Source.ofCompiled compiled name))) =
          (compiled.bind fun compiled =>
            (Value.requireWritable [name]).map fun _ => compiled).map fun compiled =>
              withSource s (Source.ofCompiled compiled name) := by
        cases compiled with
        | error e => rfl
        | ok compiled => cases Value.requireWritable [name] <;> rfl
      dsimp only
      rw [options, shape, shape]
      exact built.agree.change (by rw [built.outcome]) fun _ => rfl

/-- A join that does not infer its columns is added in the same way. -/
theorem alike_join (h : Agree .joins st st') {request : JoinRequest} (given : ¬request.Infers) :
    Outcome.Alike .joins (st.join request) (st'.join request) := by
  have known : st.state.joins = st'.state.joins := h.content
  exact h.change (request.render_of_not_infers given _ _) fun text =>
    congrArg (· ++ [text]) known

/-- A union has the same outcome on statements that agree on the unions. -/
theorem alike_union (h : Agree .unions st st') (branch : Argument d) (kind : Value) :
    Outcome.Alike .unions (st.union branch kind) (st'.union branch kind) := by
  have known : st.state.unions = st'.state.unions := h.content
  cases branch with
  | value v => exact ⟨rfl, h⟩
  | callback build =>
    have built := h.nestedCompiled build
    -- The branch is compiled and its kind read before the state is touched.
    let parts (compiled : Except Error Compiled) : Except Error UnionBranch :=
      compiled.bind fun compiled =>
        (UnionKind.ofValue kind).map fun kind => ⟨kind, compiled.sql, compiled.params⟩
    have shape (s : State) (compiled : Except Error Compiled) :
        (do
          let compiled ← compiled
          let kind ← UnionKind.ofValue kind
          .ok { s with unions := s.unions ++ [⟨kind, compiled.sql, compiled.params⟩] }) =
        (parts compiled).map fun branch => { s with unions := s.unions ++ [branch] } := by
      cases compiled with
      | error e => rfl
      | ok compiled => cases named : UnionKind.ofValue kind <;> simp [parts, named, bind,
          Except.bind, Except.map]
    unfold union
    dsimp only
    rw [shape, shape]
    exact built.agree.change (congrArg parts built.outcome) fun branch =>
      congrArg (· ++ [branch]) known

/-- A request is resolved in the same way on statements that agree, on whatever part. -/
theorem alike_resolve (h : Agree part st st') (emptyGroup : String) (clause : Option String)
    (connector : Value) (request : Request (Builder d)) :
    Outcome.Alike part (st.resolve emptyGroup clause connector request)
      (st'.resolve emptyGroup clause connector request) := by
  cases request with
  | group build =>
    have built := h.nested build
    refine ⟨?_, built.agree⟩
    show (st.nested build).1.bind _ = (st'.nested build).1.bind _
    rw [built.outcome]
  | nullTest column operator => exact ⟨rfl, h⟩
  | subquery column operator build =>
    have built := h.nestedCompiled build
    refine ⟨?_, built.agree⟩
    show (st.nestedCompiled build).1.bind _ = (st'.nestedCompiled build).1.bind _
    rw [built.outcome]
  | test column operator value => exact ⟨rfl, h⟩

/-- A further condition is added in the same way to states with the same conditions. -/
theorem content_addCondition {s s' : State} {clause : Clause}
    (h : s.content clause.part = s'.content clause.part) (condition : Condition) :
    (s.addCondition clause condition).content clause.part =
      (s'.addCondition clause condition).content clause.part := by
  cases clause with
  | rows =>
    have known : s.rowConditions = s'.rowConditions := h
    exact congrArg (· ++ [condition]) known
  | groups =>
    have known : s.groupConditions = s'.groupConditions := h
    exact congrArg (· ++ [condition]) known

/-- A test has the same outcome on statements that agree on the conditions of its clause. -/
theorem alike_require {clause : Clause} (h : Agree clause.part st st')
    (column operator value : Argument d) (connector : Value) :
    Outcome.Alike clause.part (st.require clause column operator value connector)
      (st'.require clause column operator value connector) := by
  unfold require
  cases Connector.ofValue (some clause.name) connector with
  | error e => exact ⟨rfl, h⟩
  | ok k =>
    dsimp only
    rw [h.options]
    have made := alike_resolve h st'.options.emptyGroup (some clause.name)
      (Condition.connectorField k) (Request.of column operator value)
    exact made.agree.change made.outcome fun condition =>
      content_addCondition made.agree.content condition

/-- A test for membership has the same outcome on statements that agree on the conditions on rows.
-/
theorem alike_requireMember (h : Agree .rows st st') (operator : String)
    (column values : Argument d) (connector : Value) :
    Outcome.Alike .rows (st.requireMember operator column values connector)
      (st'.requireMember operator column values connector) := by
  rw [requireMember_eq, requireMember_eq]
  cases values.items with
  | error e => exact ⟨rfl, h⟩
  | ok items =>
    have agree : Agree Clause.rows.part st st' := h
    exact alike_require agree _ _ _ _

/-- An ordering has the same outcome on statements that agree on the ordering. -/
theorem alike_order (h : Agree .ordering st st') (column direction : Value) :
    Outcome.Alike .ordering (st.order column direction) (st'.order column direction) := by
  have known : st.state.ordering = st'.state.ordering := h.content
  exact h.change rfl fun key => congrArg (· ++ [key]) known

/-- A paging has the same outcome on statements that agree on limit and offset. -/
theorem alike_page (h : Agree .paging st st') (limit offset : Value) :
    Outcome.Alike .paging (st.page limit offset) (st'.page limit offset) := by
  have shape (s : State) :
      (do
        if ← isNegativePaging limit offset then .error .negativePaging
        else .ok { s with limit := some limit, offset := givenOffset offset }) =
      ((isNegativePaging limit offset).bind fun negative =>
        if negative then Except.error Error.negativePaging else .ok ()).map fun _ =>
          { s with limit := some limit, offset := givenOffset offset } := by
    cases isNegativePaging limit offset with
    | error e => rfl
    | ok negative => cases negative <;> rfl
  unfold page
  rw [shape, shape]
  exact h.change rfl fun _ => rfl

end Statement

open Statement in
/-- A building call does the same on statements that agree on its part. -/
theorem Call.agree_run {part : Part} {call : Call} (own : call.part = some part)
    (offline : call.isOffline = true) (given : ¬call.Infers) {st st' : Statement d}
    (h : Agree part st st') : Outcome.Alike part (call.run st) (call.run st') := by
  have self {x y : Outcome d Unit} (alike : Outcome.Alike part x y) :
      Outcome.Alike part x.self y.self :=
    ⟨by rw [Outcome.self, Outcome.self, alike.outcome], alike.agree⟩
  cases call with
  | select columns =>
    obtain rfl := Option.some.inj own
    have known : st.state.columns = st'.state.columns := h.content
    exact ⟨rfl, h.options, h.session, congrArg (· ++ _) known⟩
  | readFrom source aliasName =>
    obtain rfl := Option.some.inj own
    exact self (alike_readFrom h _ _)
  | join table first operator second kind shared =>
    obtain rfl := Option.some.inj own
    exact self (alike_join h given)
  | union branch kind =>
    obtain rfl := Option.some.inj own
    exact self (alike_union h _ _)
  | require clause column operator value connector =>
    obtain rfl := Option.some.inj own
    exact self (alike_require h _ _ _ _)
  | requireMember operator column values connector =>
    obtain rfl := Option.some.inj own
    exact self (alike_requireMember h _ _ _ _)
  | group columns =>
    obtain rfl := Option.some.inj own
    have known : st.state.grouping = st'.state.grouping := h.content
    exact ⟨rfl, h.options, h.session, congrArg (· ++ _) known⟩
  | order column direction =>
    obtain rfl := Option.some.inj own
    exact self (alike_order h _ _)
  | page limit offset =>
    obtain rfl := Option.some.inj own
    exact self (alike_page h _ _)
  | first => cases offline
  | _ => cases own

end SqlBuilder
