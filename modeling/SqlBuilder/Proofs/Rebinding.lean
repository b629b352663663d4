import SqlBuilder.Proofs.Conditions
import SqlBuilder.Statement.Basic

/-!
# Other values in the same places

`rebind f` puts other values in the places of the bound ones and leaves everything else as it is. It
commutes with every method of a statement: texts, errors and choices do not depend on the values,
and values are passed on in their places. A callback that commutes is as good as a method.
-/

set_option autoImplicit false

namespace SqlBuilder

open Sql (Compiled)

variable {f : Value → Value}

/-! ## What binds values -/

/-- Compiled SQL with other values. -/
def Sql.Compiled.rebind (f : Value → Value) (compiled : Compiled) : Compiled :=
  { compiled with params := compiled.params.map f }

/-- A source with other values in a derived table. -/
def Source.rebind (f : Value → Value) (source : Source) : Source :=
  { source with bindings := source.bindings.map f }

/-- A united statement with other values. -/
def UnionBranch.rebind (f : Value → Value) (branch : UnionBranch) : UnionBranch :=
  { branch with bindings := branch.bindings.map f }

namespace Condition

/-- A condition with other values. -/
def rebind (f : Value → Value) : Condition → Condition
  | simple connector column operator value => simple connector column operator (f value)
  | nullTest connector column operator => nullTest connector column operator
  | membership connector column operator values =>
    membership connector column operator (values.map f)
  | subquery connector column operator sql bindings =>
    subquery connector column operator sql (bindings.map f)
  | group connector sql bindings => group connector sql (bindings.map f)

/-- The connector of a condition does not depend on its values. -/
@[simp] theorem connector_rebind (c : Condition) : (c.rebind f).connector = c.connector := by
  cases c <;> rfl

/-- The text of a condition does not depend on its values. -/
@[simp] theorem render_rebind (c : Condition) : (c.rebind f).render = c.render := by
  cases c with
  | membership connector column operator values => simp only [rebind, render, List.length_map]
  | _ => rfl

/-- The values of a condition with other values. -/
@[simp] theorem params_rebind (c : Condition) : (c.rebind f).params = c.params.map f := by
  cases c <;> rfl

/-- The text of a clause does not depend on its values. -/
theorem renderAll_rebind (cs : List Condition) :
    renderAll (cs.map (rebind f)) = renderAll cs := by
  cases cs with
  | nil => rfl
  | cons c cs =>
    have next : renderNext ∘ rebind f = renderNext := by
      funext c
      simp only [Function.comp, renderNext, connector_rebind, render_rebind]
    rw [List.map_cons, renderAll, renderAll, render_rebind, List.map_map, next]

/-- The values of a clause with other values. -/
theorem paramsAll_rebind (cs : List Condition) :
    paramsAll (cs.map (rebind f)) = (paramsAll cs).map f := by
  induction cs with
  | nil => rfl
  | cons c cs ih =>
    have both : paramsAll (c :: cs) = c.params ++ paramsAll cs := rfl
    rw [both, List.map_append, ← ih, ← params_rebind]
    rfl

end Condition

/-! ## States -/

namespace State

/-- A state with other values in the places of the bound ones. -/
def rebind (f : Value → Value) (s : State) : State :=
  { s with
    source := s.source.map (Source.rebind f)
    rowConditions := s.rowConditions.map (Condition.rebind f)
    groupConditions := s.groupConditions.map (Condition.rebind f)
    unions := s.unions.map (UnionBranch.rebind f) }

/-- The conditions of a state with other values. -/
theorem conditions_rebind (s : State) (clause : Clause) :
    (s.rebind f).conditions clause = (s.conditions clause).map (Condition.rebind f) := by
  cases clause <;> rfl

/-- The text of a clause does not depend on the values. -/
@[simp] theorem clauseText_rebind (s : State) (clause : Clause) :
    (s.rebind f).clauseText clause = s.clauseText clause := by
  rw [clauseText, conditions_rebind, Condition.renderAll_rebind, clauseText]

/-- The values of a clause with other values. -/
@[simp] theorem clauseParams_rebind (s : State) (clause : Clause) :
    (s.rebind f).clauseParams clause = (s.clauseParams clause).map f := by
  rw [clauseParams, conditions_rebind, Condition.paramsAll_rebind, clauseParams]

/-- WHERE does not depend on the values. -/
@[simp] theorem whereText_rebind (s : State) : (s.rebind f).whereText = s.whereText := by
  rw [whereText, clauseText_rebind, whereText]

/-- The united texts do not depend on the values. -/
@[simp] theorem unionsText_rebind (s : State) : (s.rebind f).unionsText = s.unionsText := by
  have same : UnionBranch.render ∘ UnionBranch.rebind f = UnionBranch.render := rfl
  rw [unionsText, rebind, List.map_map, same, unionsText]

/-- Whether HAVING is written does not depend on the values. -/
@[simp] theorem writesHaving_rebind (s : State) : (s.rebind f).writesHaving = s.writesHaving := by
  rw [writesHaving, rebind, List.isEmpty_map, writesHaving]

/-- The values of the source with other values. -/
@[simp] theorem sourceBindings_rebind (s : State) :
    (s.rebind f).sourceBindings = s.sourceBindings.map f := by
  rw [sourceBindings, rebind, sourceBindings]
  cases s.source <;> rfl

/-- The values of the united statements with other values. -/
@[simp] theorem unionBindings_rebind (s : State) :
    (s.rebind f).unionBindings = s.unionBindings.map f := by
  rw [unionBindings, rebind, List.flatMap_map, unionBindings, List.map_flatMap]
  rfl

/-- The source of a state with other values. -/
theorem requireSource_rebind (s : State) (operation : String) :
    (s.rebind f).requireSource operation = (s.requireSource operation).map (Source.rebind f) := by
  rw [requireSource, rebind, requireSource]
  cases s.source <;> rfl

/-- The text of the SELECT does not depend on the values. -/
@[simp] theorem selectText_rebind (s : State) : (s.rebind f).selectText = s.selectText := by
  have columns : (s.rebind f).columnsText = s.columnsText := rfl
  have joins : (s.rebind f).joinsText = s.joinsText := rfl
  have order : (s.rebind f).orderText = s.orderText := rfl
  have paging : (s.rebind f).pagingText = s.pagingText := rfl
  have grouping : (s.rebind f).grouping = s.grouping := rfl
  have groups : (s.rebind f).groupText = s.groupText := by
    rw [groupText, clauseText_rebind, grouping, groupText]
  rw [selectText, requireSource_rebind, columns, joins, order, paging, groups, whereText_rebind,
    unionsText_rebind, selectText]
  cases s.requireSource "select" <;> rfl

/-- The values of the SELECT with other values. -/
theorem selectParams_rebind (s : State) : (s.rebind f).selectParams = s.selectParams.map f := by
  rw [selectParams, sourceBindings_rebind, clauseParams_rebind, writesHaving_rebind,
    clauseParams_rebind, unionBindings_rebind, selectParams, List.map_append, List.map_append,
    List.map_append]
  split <;> rfl

/-- All values with others in their places. -/
theorem allBindings_rebind (s : State) : (s.rebind f).allBindings = s.allBindings.map f := by
  rw [allBindings, sourceBindings_rebind, clauseParams_rebind, clauseParams_rebind,
    unionBindings_rebind, allBindings, List.map_append, List.map_append, List.map_append]

/-- The compiled SELECT with other values. -/
theorem compile_rebind (s : State) :
    (s.rebind f).compile = s.compile.map (Compiled.rebind f) := by
  rw [compile, selectText_rebind, selectParams_rebind, compile]
  cases s.selectText <;> rfl

/-- The table of a mutation with other values. -/
theorem requireTable_rebind (s : State) (mutation : Mutation) :
    (s.rebind f).requireTable mutation = (s.requireTable mutation).map (Source.rebind f) := by
  unfold requireTable
  rw [requireSource_rebind]
  cases s.requireSource mutation.name with
  | error e => rfl
  | ok source =>
    show (if source.derived then _ else _) = Except.map _ (if source.derived then _ else _)
    split <;> rfl

/-- The data of a mutation with other values for the same keys. -/
def rebindData (f : Value → Value) : Value → Value
  | .mapping pairs => .mapping (pairs.map (Prod.map id f))
  | data => data

/-- The keys of data with other values. -/
theorem keys_rebind (pairs : List (Value × Value)) :
    (pairs.map (Prod.map id f)).map Prod.fst = pairs.map Prod.fst := by
  rw [List.map_map]
  rfl

/-- The values of data with other values. -/
theorem values_rebind (pairs : List (Value × Value)) :
    (pairs.map (Prod.map id f)).map Prod.snd = (pairs.map Prod.snd).map f := by
  rw [List.map_map, List.map_map]
  rfl

/-- Whether data are missing does not depend on the values. -/
theorem requireData_rebind (mutation : Mutation) (data : Value) :
    requireData mutation (rebindData f data) = (requireData mutation data).map (rebindData f) := by
  cases data with
  | mapping pairs =>
    have filled : (Value.mapping (pairs.map (Prod.map id f))).truthy =
        (Value.mapping pairs).truthy := by
      rw [Value.truthy, List.isEmpty_map, Value.truthy]
    rw [requireData, rebindData, filled, requireData]
    split <;> rfl
  | _ =>
    rw [requireData, rebindData, requireData]
    · split <;> rfl
    · intro _ given
      cases given

/-- The compiled INSERT with other values. -/
theorem compileInsert_rebind (s : State) (data : Value) :
    (s.rebind f).compileInsert (rebindData f data) =
      (s.compileInsert data).map (Compiled.rebind f) := by
  unfold compileInsert
  rw [requireTable_rebind, requireData_rebind]
  cases s.requireTable .insert with
  | error e => rfl
  | ok source =>
    cases found : requireData .insert data with
    | error e => rfl
    | ok given =>
      cases given with
      | mapping pairs =>
        simp only [Except.map, bind, Except.bind, rebindData, Value.pairs?, keys_rebind,
          values_rebind, List.length_map]
        cases joinTexts (pairs.map Prod.fst) <;> rfl
      | _ => rfl

/-- The compiled UPDATE with other values. -/
theorem compileUpdate_rebind (s : State) (data : Value) :
    (s.rebind f).compileUpdate (rebindData f data) =
      (s.compileUpdate data).map (Compiled.rebind f) := by
  unfold compileUpdate
  rw [requireTable_rebind, requireData_rebind, whereText_rebind, clauseParams_rebind]
  cases s.requireTable .update with
  | error e => rfl
  | ok source =>
    cases found : requireData .update data with
    | error e => rfl
    | ok given =>
      cases given with
      | mapping pairs =>
        simp only [Except.map, bind, Except.bind, rebindData, Value.pairs?, keys_rebind,
          values_rebind, Source.rebind]
        cases Value.requireWritable (pairs.map Prod.fst) with
        | error e => rfl
        | ok done => simp only [Compiled.rebind, List.map_append]
      | _ =>
        simp only [Except.map, bind, Except.bind, rebindData, Value.pairs?]
        cases Value.requireWritable _ with
        | error e => rfl
        | ok done => cases Value.yielded _ |>.2 <;> rfl

/-- The compiled DELETE with other values. -/
theorem compileDelete_rebind (s : State) :
    (s.rebind f).compileDelete = s.compileDelete.map (Compiled.rebind f) := by
  unfold compileDelete
  rw [requireTable_rebind, whereText_rebind, clauseParams_rebind]
  cases s.requireTable .delete <;> rfl

end State

/-! ## Conditions -/

namespace Condition

/-- A value with another one, or with others in its places if it is a collection, as conditions bind
them. -/
inductive Rebound (f : Value → Value) : Value → Value → Prop
  /-- A value that binds as one. -/
  | scalar {v : Value} (before : v.isCollection = false) (after : (f v).isCollection = false) :
    Rebound f v (f v)
  /-- A collection. -/
  | collection {v w : Value} (before : v.isCollection = true) (after : w.isCollection = true)
    (items : w.items = v.items.map (List.map f)) : Rebound f v w

/-- A test against other values. -/
theorem ofTest_rebound {v w : Value} (h : Rebound f v w) (clause : Option String)
    (connector column operator : Value) :
    ofTest clause connector column operator w =
      (ofTest clause connector column operator v).map (rebind f) := by
  cases h with
  | scalar before after =>
    unfold ofTest Fields.simple
    simp only [before, after, Bool.false_eq_true, if_false, Checked.of, Option.getD_some,
      Fields.checkedConnector, Fields.checkedColumn, Fields.checkedOperator]
    cases checkField ([] ++ ["connector"]) (some .and) checkConnector (some connector) <;>
      cases checkField ([] ++ ["column"]) none checkText (some column) <;>
        cases checkField ([] ++ ["operator"]) (some "=") checkText
          (some (operator.orElse (.text "="))) <;> rfl
  | collection before after items =>
    unfold ofTest Fields.membership
    simp only [before, after, if_true, items]
    cases v.items with
    | error e => rfl
    | ok found =>
      cases found with
      | nil => rfl
      | cons first rest =>
        simp only [Except.map, List.map_cons, Checked.of, Fields.checkedConnector,
          Fields.checkedColumn, Fields.checkedOperator]
        cases checkField ([] ++ ["connector"]) (some .and) checkConnector (some connector) <;>
          cases checkField ([] ++ ["column"]) none checkText (some column) <;>
            cases checkField ([] ++ ["operator"]) (some "IN") checkText
              (some (operator.orElse (.text "IN"))) <;> rfl

/-- A null test binds nothing. -/
theorem ofNullTest_rebind (connector column : Value) (operator : Option Value) :
    (ofNullTest connector column operator).map (rebind f) =
      ofNullTest connector column operator := by
  unfold ofNullTest Fields.nullTest
  simp only [Checked.of, Fields.checkedConnector, Fields.checkedColumn, Fields.checkedOperator]
  cases checkField ([] ++ ["connector"]) (some .and) checkConnector (some connector) <;>
    cases checkField ([] ++ ["column"]) none checkText (some column) <;>
      cases checkField ([] ++ ["operator"]) (some "IS NULL") checkText operator <;> rfl

/-- A test against the rows of a statement with other values. -/
theorem ofSubquery_rebind (connector column operator : Value) (compiled : Compiled) :
    ofSubquery connector column operator (compiled.rebind f) =
      (ofSubquery connector column operator compiled).map (rebind f) := by
  unfold ofSubquery Fields.subquery
  simp only [Checked.of, Fields.checkedConnector, Fields.checkedColumn, Fields.checkedOperator]
  cases checkField ([] ++ ["connector"]) (some .and) checkConnector (some connector) <;>
    cases checkField ([] ++ ["column"]) none checkText (some column) <;>
      cases checkField ([] ++ ["operator"]) (some "IN") checkText
        (some (operator.orElse (.text "IN"))) <;> rfl

/-- A group with other values. -/
theorem ofGroup_rebind (connector : Value) (empty body : String) (bindings : List Value) :
    ofGroup connector empty body (bindings.map f) =
      (ofGroup connector empty body bindings).map (rebind f) := by
  unfold ofGroup Fields.group
  simp only [Checked.of, Fields.checkedConnector]
  cases checkField ([] ++ ["connector"]) (some .and) checkConnector (some connector) <;> rfl

end Condition

/-! ## Methods -/

variable {d : Driver}

/-- A statement with other values. -/
def Statement.rebind (f : Value → Value) (st : Statement d) : Statement d :=
  { st with state := st.state.rebind f }

namespace Outcome

/-- What a method gives, with other values in the statement and, by a given map, in the result. -/
def rebind {α : Type} (f : Value → Value) (g : α → α) (outcome : Outcome d α) : Outcome d α :=
  (outcome.1.map g, outcome.2.rebind f)

end Outcome

/-- A callback that does the same with other values. -/
def Builder.Rebound (f : Value → Value) (build other : Builder d) : Prop :=
  ∀ st, other (st.rebind f) = Outcome.rebind f id (build st)

/-- Arguments with other values, where plain values may be exchanged by a given relation. -/
inductive Operand.Rebound (f : Value → Value) (allowed : Value → Value → Prop) :
    Argument d → Argument d → Prop
  /-- Plain values. -/
  | value {v w : Value} (h : allowed v w) : Operand.Rebound f allowed (.value v) (.value w)
  /-- Callbacks. -/
  | callback {build other : Builder d} (h : build.Rebound f other) :
    Operand.Rebound f allowed (.callback build) (.callback other)

/-- Requests for conditions with other values. -/
inductive Request.Rebound (f : Value → Value) : Request (Builder d) → Request (Builder d) → Prop
  /-- A group. -/
  | group {build other : Builder d} (h : build.Rebound f other) :
    Request.Rebound f (.group build) (.group other)
  /-- A null test. -/
  | nullTest (column : Value) (operator : Option Value) :
    Request.Rebound f (.nullTest column operator) (.nullTest column operator)
  /-- A subquery. -/
  | subquery (column operator : Value) {build other : Builder d} (h : build.Rebound f other) :
    Request.Rebound f (.subquery column operator build) (.subquery column operator other)
  /-- A test against a plain value. -/
  | test (column operator : Value) {v w : Value} (h : Condition.Rebound f v w) :
    Request.Rebound f (.test column operator v) (.test column operator w)

namespace Statement

variable (st : Statement d)

/-- A change of the state that commutes. -/
theorem change_rebind {before after : Except Error State}
    (h : after = before.map (State.rebind f)) :
    (st.rebind f).change after = Outcome.rebind f id (st.change before) := by
  rw [h]
  cases before <;> rfl

/-- The state that a callback gives. -/
theorem nested_rebound {build other : Builder d} (h : build.Rebound f other) :
    (st.rebind f).nested other = Outcome.rebind f (State.rebind f) (st.nested build) := by
  have fresh : (st.rebind f).fresh = st.fresh.rebind f := rfl
  rw [nested, fresh, h st.fresh, nested]
  obtain ⟨outcome, inner⟩ := build st.fresh
  cases outcome <;> rfl

/-- The compiled statement that a callback configures. -/
theorem nestedCompiled_rebound {build other : Builder d} (h : build.Rebound f other) :
    (st.rebind f).nestedCompiled other =
      Outcome.rebind f (Compiled.rebind f) (st.nestedCompiled build) := by
  rw [nestedCompiled, nested_rebound st h, nestedCompiled]
  obtain ⟨outcome, after⟩ := st.nested build
  cases outcome with
  | error e => rfl
  | ok state =>
    have compiled := State.compile_rebind (f := f) state
    simp only [Outcome.rebind, Except.map, Except.bind, compiled]

/-- Selected columns bind nothing. -/
theorem select_rebind (arguments : List Value) :
    (st.rebind f).select arguments = Outcome.rebind f id (st.select arguments) := by
  rw [select, select]
  rcases namedColumns arguments with ⟨columns, outcome⟩
  cases outcome <;> rfl

/-- Grouping columns bind nothing. -/
theorem group_rebind (arguments : List Value) :
    (st.rebind f).group arguments = Outcome.rebind f id (st.group arguments) := by
  rw [group, group]
  rcases namedColumns arguments with ⟨columns, outcome⟩
  cases outcome <;> rfl

/-- A table binds nothing. -/
theorem ofReference_rebind (reference : Value) :
    (Source.ofReference reference).map (Source.rebind f) = Source.ofReference reference := by
  cases h : Source.ofReference reference with
  | error e => rfl
  | ok source =>
    have none := (Source.bindings_ofReference h).1
    rw [Except.map, Source.rebind, none]
    exact congrArg (fun bindings => Except.ok { source with bindings := bindings }) none.symm

/-- A source with other values. -/
theorem readFrom_rebound {source other : Argument d} (h : Operand.Rebound f Eq source other)
    (aliasName : Value) :
    (st.rebind f).readFrom other aliasName =
      Outcome.rebind f id (st.readFrom source aliasName) := by
  have here : (st.rebind f).state.source = st.state.source.map (Source.rebind f) := rfl
  unfold readFrom
  rw [here]
  cases st.state.source with
  | some known => rfl
  | none =>
    cases h with
    | @value reference _ same =>
      rw [← same]
      refine change_rebind st ?_
      have plain := ofReference_rebind (f := f) reference
      cases found : Source.ofReference reference with
      | error e => rfl
      | ok source =>
        rw [found] at plain
        exact congrArg (Except.map (withSource (st.rebind f).state)) plain.symm
    | @callback build other h =>
      simp only [Option.map_none, nestedCompiled_rebound st h]
      obtain ⟨outcome, after⟩ := st.nestedCompiled build
      refine change_rebind after ?_
      cases outcome with
      | error e => rfl
      | ok compiled =>
        -- The alias is shown, and only the values of the derived table are other ones.
        let shown := aliasName.orElse (.text after.options.subqueryAlias)
        change (Value.requireWritable [shown]).bind _ =
          Except.map _ ((Value.requireWritable [shown]).bind _)
        cases Value.requireWritable [shown] <;> rfl

/-- A join depends on the source, but not on its values. -/
theorem join_rebind (request : JoinRequest) :
    (st.rebind f).join request = Outcome.rebind f id (st.join request) := by
  have same : request.render (st.rebind f).state.source = request.render st.state.source := by
    have here : (st.rebind f).state.source = st.state.source.map (Source.rebind f) := rfl
    rw [here]
    cases st.state.source <;> rfl
  rw [join, same, join]
  refine change_rebind st ?_
  cases request.render st.state.source <;> rfl

/-- A united statement with other values. -/
theorem union_rebound {branch other : Argument d} (h : Operand.Rebound f Eq branch other)
    (kind : Value) :
    (st.rebind f).union other kind = Outcome.rebind f id (st.union branch kind) := by
  cases h with
  | value same => rfl
  | @callback build other h =>
    simp only [union, nestedCompiled_rebound st h]
    obtain ⟨outcome, after⟩ := st.nestedCompiled build
    refine change_rebind after ?_
    cases outcome with
    | error e => rfl
    | ok compiled =>
      simp only [bind, Except.bind, Except.map, Outcome.rebind]
      cases UnionKind.ofValue kind with
      | error e => rfl
      | ok kind =>
        simp only [State.rebind, rebind, List.map_append]
        rfl

/-- The condition that a request asks for, with other values. -/
theorem resolve_rebound {request other : Request (Builder d)} (h : Request.Rebound f request other)
    (emptyGroup : String) (clause : Option String) (connector : Value) :
    (st.rebind f).resolve emptyGroup clause connector other =
      Outcome.rebind f (Condition.rebind f) (st.resolve emptyGroup clause connector request) := by
  cases h with
  | @group build other h =>
    simp only [resolve, nested_rebound st h]
    obtain ⟨outcome, after⟩ := st.nested build
    cases outcome with
    | error e => rfl
    | ok state =>
      simp only [Outcome.rebind, Except.map, Except.bind, State.clauseText_rebind,
        State.clauseParams_rebind, Condition.ofGroup_rebind]
  | nullTest column operator =>
    simp only [resolve, Outcome.rebind, Condition.ofNullTest_rebind]
  | @subquery column operator build other h =>
    simp only [resolve, nestedCompiled_rebound st h]
    obtain ⟨outcome, after⟩ := st.nestedCompiled build
    cases outcome with
    | error e => rfl
    | ok compiled =>
      simp only [Outcome.rebind, Except.map, Except.bind, Condition.ofSubquery_rebind]
  | test column operator h =>
    simp only [resolve, Outcome.rebind, Condition.ofTest_rebound h]

/-- A condition with other values. -/
theorem require_rebound {column operator value column' operator' value' : Argument d}
    (h : Request.Rebound f (.of column operator value) (.of column' operator' value'))
    (clause : Clause) (connector : Value) :
    (st.rebind f).require clause column' operator' value' connector =
      Outcome.rebind f id (st.require clause column operator value connector) := by
  unfold require
  cases Connector.ofValue (some clause.name) connector with
  | error e => rfl
  | ok connector =>
    have options : (st.rebind f).options = st.options := rfl
    simp only [options, resolve_rebound st h]
    obtain ⟨outcome, after⟩ := st.resolve st.options.emptyGroup (some clause.name)
      (Condition.connectorField connector) (.of column operator value)
    refine change_rebind after ?_
    cases outcome with
    | error e => rfl
    | ok condition =>
      cases clause <;>
        simp only [Outcome.rebind, Except.map, State.addCondition, State.rebind, rebind,
          List.map_append, List.map_cons, List.map_nil]

/-- Sort keys bind nothing. -/
theorem order_rebind (column direction : Value) :
    (st.rebind f).order column direction = Outcome.rebind f id (st.order column direction) := by
  refine change_rebind st ?_
  cases sortKey column direction <;> rfl

/-- Limit and offset bind nothing. -/
theorem page_rebind (limit offset : Value) :
    (st.rebind f).page limit offset = Outcome.rebind f id (st.page limit offset) := by
  refine change_rebind st ?_
  cases isNegativePaging limit offset with
  | error e => rfl
  | ok negative => cases negative <;> rfl

end Statement

end SqlBuilder
