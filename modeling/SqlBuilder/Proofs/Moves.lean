import SqlBuilder.Proofs.Conditions
import SqlBuilder.Proofs.Interpolation

/-!
# What a call can do to a state

A state consists of parts, one for each clause, and every call is about at most one of them.
`State.Moves` lists all that a call can do to the state of its statement: nothing, or one kind of
change of its part, with the checks that the change has passed. `Call.moves` says that calls do
nothing else, whether they succeed or fail. What a callback builds goes into the change as the text
and the values of a state, of which any property can be assumed that callbacks guarantee.
-/

set_option autoImplicit false

namespace SqlBuilder

open Sql (Compiled)

variable {d : Driver}

/-! ## Parts -/

/-- The parts of a state. -/
inductive Part where
  /-- The selected columns. -/
  | columns
  /-- The source. -/
  | source
  /-- The joins. -/
  | joins
  /-- The conditions on rows. -/
  | rows
  /-- The conditions on groups. -/
  | groups
  /-- The grouping columns. -/
  | grouping
  /-- The sort keys. -/
  | ordering
  /-- Limit and offset. -/
  | paging
  /-- The united statements. -/
  | unions
  deriving DecidableEq, Repr

/-- The part that holds the conditions of a clause. -/
def Clause.part : Clause → Part
  | .rows => .rows
  | .groups => .groups

/-- What a part of a state holds. -/
def Part.Content : Part → Type
  | .columns | .grouping => List Value
  | .source => Option Source
  | .joins | .ordering => List String
  | .rows | .groups => List Condition
  | .paging => Option Value × Option Value
  | .unions => List UnionBranch

namespace State

/-- The content of a part. -/
def content (s : State) : (part : Part) → part.Content
  | .columns => s.columns
  | .source => s.source
  | .joins => s.joins
  | .rows => s.rowConditions
  | .groups => s.groupConditions
  | .grouping => s.grouping
  | .ordering => s.ordering
  | .paging => (s.limit, s.offset)
  | .unions => s.unions

/-- A state is the content of its parts. -/
theorem ext_content {s s' : State} (h : ∀ part, s.content part = s'.content part) : s = s' := by
  have limit : s.limit = s'.limit := congrArg Prod.fst (h .paging)
  have offset : s.offset = s'.offset := congrArg Prod.snd (h .paging)
  have columns : s.columns = s'.columns := h .columns
  have source : s.source = s'.source := h .source
  have joins : s.joins = s'.joins := h .joins
  have rows : s.rowConditions = s'.rowConditions := h .rows
  have groups : s.groupConditions = s'.groupConditions := h .groups
  have grouping : s.grouping = s'.grouping := h .grouping
  have ordering : s.ordering = s'.ordering := h .ordering
  have unions : s.unions = s'.unions := h .unions
  cases s
  cases s'
  dsimp only at limit offset columns source joins rows groups grouping ordering unions
  subst limit offset columns source joins rows groups grouping ordering unions
  rfl

end State

/-- The part that a call is about; a call that only reads is about none. -/
def Call.part : Call → Option Part
  | .select _ => some .columns
  | .readFrom _ _ => some .source
  | .join _ _ _ _ _ _ => some .joins
  | .union _ _ => some .unions
  | .require clause _ _ _ _ => some clause.part
  | .requireMember _ _ _ _ => some .rows
  | .group _ => some .grouping
  | .order _ _ => some .ordering
  | .page _ _ => some .paging
  | .first => some .paging
  | _ => none

/-! ## Moves -/

/-- A condition that was made for a clause: its values are there, what a callback built has a
property, and a subquery compiles. -/
inductive Condition.Made (Q : State → Prop) (emptyGroup : String) (clause : Clause) :
    Condition → Prop
  /-- A comparison. -/
  | simple (k : Connector) (column operator : String) (value : Value) :
    Made Q emptyGroup clause (.simple k column operator value)
  /-- A null test. -/
  | nullTest (k : Connector) (column operator : String) :
    Made Q emptyGroup clause (.nullTest k column operator)
  /-- A membership test. -/
  | membership (k : Connector) (column operator : String) {values : List Value}
    (some : values ≠ []) : Made Q emptyGroup clause (.membership k column operator values)
  /-- A test against the rows of a statement. -/
  | subquery (k : Connector) (column operator : String) {inner : State} {compiled : Compiled}
    (built : Q inner) (compiles : inner.compile = .ok compiled) :
    Made Q emptyGroup clause (.subquery k column operator compiled.sql compiled.params)
  /-- A group. -/
  | group (k : Connector) {inner : State} (built : Q inner) :
    Made Q emptyGroup clause
      (.group k (groupText (inner.clauseText clause) emptyGroup) (inner.clauseParams clause))

/-- What a call about a part, or about none, can make of a state. -/
inductive State.Moves (Q : State → Prop) (emptyGroup : String) (s : State) :
    Option Part → State → Prop
  /-- Nothing. -/
  | stay (part : Option Part) : Moves Q emptyGroup s part s
  /-- Further columns. -/
  | columns (more : List Value) :
    Moves Q emptyGroup s (some .columns) { s with columns := s.columns ++ more }
  /-- A table as the source, where there was none. -/
  | table {table : Source} (free : s.source = none) (plain : table.derived = false)
    (unbound : table.bindings = []) :
    Moves Q emptyGroup s (some .source) (Statement.withSource s table)
  /-- A derived table as the source, where there was none. -/
  | derived {inner : State} {compiled : Compiled} (free : s.source = none) (built : Q inner)
    (compiles : inner.compile = .ok compiled) (aliasName : Value) :
    Moves Q emptyGroup s (some .source)
      (Statement.withSource s (Source.ofCompiled compiled aliasName))
  /-- One more join. -/
  | join (text : String) : Moves Q emptyGroup s (some .joins) { s with joins := s.joins ++ [text] }
  /-- One more condition. -/
  | condition (clause : Clause) {condition : Condition}
    (made : condition.Made Q emptyGroup clause) :
    Moves Q emptyGroup s (some clause.part) (s.addCondition clause condition)
  /-- Further grouping columns. -/
  | grouping (more : List Value) :
    Moves Q emptyGroup s (some .grouping) { s with grouping := s.grouping ++ more }
  /-- One more sort key. -/
  | ordering (key : String) :
    Moves Q emptyGroup s (some .ordering) { s with ordering := s.ordering ++ [key] }
  /-- Limit and offset in place of earlier ones. -/
  | paging {limit : Value} {offset : Option Value}
    (limitKept : Statement.isNegative limit = .ok false)
    (offsetKept : ∀ v, offset = some v → Statement.isNegative v = .ok false) :
    Moves Q emptyGroup s (some .paging) { s with limit := some limit, offset := offset }
  /-- The limit one in place of an earlier one. -/
  | limited : Moves Q emptyGroup s (some .paging) { s with limit := some (.int 1) }
  /-- One more united statement. -/
  | union (kind : UnionKind) {inner : State} {compiled : Compiled} (built : Q inner)
    (compiles : inner.compile = .ok compiled) :
    Moves Q emptyGroup s (some .unions)
      { s with unions := s.unions ++ [⟨kind, compiled.sql, compiled.params⟩] }

/-- A move leaves all parts but its own as they are. -/
theorem State.Moves.content_of_ne {Q : State → Prop} {e : String} {s s' : State}
    {part : Option Part} (h : s.Moves Q e part s') {other : Part} (ne : part ≠ some other) :
    s'.content other = s.content other := by
  cases h with
  | stay part => rfl
  | condition clause made =>
    cases clause <;> cases other <;> first | rfl | exact absurd rfl ne
  | _ => cases other <;> first | rfl | exact absurd rfl ne

namespace Statement

variable {Q : State → Prop} {st : Statement d}

/-- What a callback argument makes of a fresh statement has a property. -/
def Yields (Q : State → Prop) (st : Statement d) : Argument d → Prop
  | .value _ => True
  | .callback build => Q (build st.fresh).2.state

/-- What the callback of a request makes of a fresh statement has a property. -/
def RequestYields (Q : State → Prop) (st : Statement d) : Request (Builder d) → Prop
  | .group build | .subquery _ _ build => Q (build st.fresh).2.state
  | .nullTest _ _ | .test _ _ _ => True

/-- A state that was built by a callback is the one that the callback makes of a fresh statement. -/
theorem built_of_nested {build : Builder d} (h : Q (build st.fresh).2.state) {inner : State}
    (built : (st.nested build).1 = .ok inner) : Q inner := by
  obtain ⟨_, -, rfl⟩ := of_map_eq_ok built
  exact h

/-- What a callback gives compiled is a state with the property that compiles. -/
theorem built_of_nestedCompiled {build : Builder d} (h : Q (build st.fresh).2.state)
    {compiled : Compiled} (built : (st.nestedCompiled build).1 = .ok compiled) :
    ∃ inner, Q inner ∧ inner.compile = .ok compiled := by
  obtain ⟨inner, nested, compiles⟩ := of_bind_eq_ok built
  exact ⟨inner, built_of_nested h nested, compiles⟩

/-- A change moves the state if all states that it can lead to are moves. -/
theorem moves_change {e : String} {part : Option Part} {s : State} (same : st.state = s)
    {state : Except Error State} (h : ∀ s', state = .ok s' → s.Moves Q e part s') :
    s.Moves Q e part (st.change state).2.state := by
  cases state with
  | error e => exact same ▸ .stay part
  | ok s' => exact h s' rfl

/-- Setting the source takes a table or what a callback builds, and only once. -/
theorem moves_readFrom (e : String) {source : Argument d} (h : st.Yields Q source)
    (aliasName : Value) :
    st.state.Moves Q e (some .source) (st.readFrom source aliasName).2.state := by
  unfold readFrom
  split
  · exact .stay _
  · rename_i free
    cases source with
    | value reference =>
      refine moves_change rfl fun s' changed => ?_
      obtain ⟨table, found, rfl⟩ := of_map_eq_ok changed
      obtain ⟨unbound, plain⟩ := Source.bindings_ofReference found
      exact .table free plain unbound
    -- The callback ran on a fresh statement; the alias is looked at once it has compiled.
    | callback build =>
      refine moves_change (state_nestedCompiled st build) fun s' changed => ?_
      obtain ⟨compiled, found, changed⟩ := of_bind_eq_ok changed
      obtain ⟨-, -, changed⟩ := of_bind_eq_ok changed
      obtain rfl := Except.ok.inj changed
      obtain ⟨inner, built, compiles⟩ := built_of_nestedCompiled h found
      exact .derived free built compiles _

/-- A join adds to the joins or leaves the state as it was. -/
theorem moves_join (e : String) (request : JoinRequest) :
    st.state.Moves Q e (some .joins) (st.join request).2.state := by
  refine moves_change rfl fun s' changed => ?_
  obtain ⟨text, -, rfl⟩ := of_map_eq_ok changed
  exact .join text

/-- A union adds to the unions or leaves the state as it was. -/
theorem moves_union (e : String) {branch : Argument d} (h : st.Yields Q branch) (kind : Value) :
    st.state.Moves Q e (some .unions) (st.union branch kind).2.state := by
  cases branch with
  | value v => exact .stay _
  | callback build =>
    refine moves_change (state_nestedCompiled st build) fun s' changed => ?_
    obtain ⟨compiled, found, changed⟩ := of_bind_eq_ok changed
    obtain ⟨kind, -, changed⟩ := of_bind_eq_ok changed
    obtain ⟨inner, built, compiles⟩ := built_of_nestedCompiled h found
    exact Except.ok.inj changed ▸ .union kind built compiles

/-- The condition that a request gives in a clause was made for the clause. -/
theorem made_resolve {e : String} {clause : Clause} {connector : Value}
    {request : Request (Builder d)} (h : st.RequestYields Q request) {condition : Condition}
    (made : (st.resolve e (some clause.name) connector request).1 = .ok condition) :
    condition.Made Q e clause := by
  cases request with
  | group build =>
    obtain ⟨inner, built, grouped⟩ := of_bind_eq_ok made
    obtain ⟨k, rfl⟩ := Condition.of_ofGroup grouped
    have own : (if some clause.name = some Clause.groups.name then Clause.groups else .rows) =
        clause := by
      cases clause <;> rfl
    rw [own]
    exact .group k (built_of_nested h built)
  | nullTest column operator =>
    obtain ⟨k, col, op, rfl, -⟩ := Condition.of_ofNullTest made
    exact .nullTest k col op
  | subquery column operator build =>
    obtain ⟨compiled, found, made⟩ := of_bind_eq_ok made
    obtain ⟨k, col, op, rfl, -⟩ := Condition.of_ofSubquery made
    obtain ⟨inner, built, compiles⟩ := built_of_nestedCompiled h found
    exact .subquery k col op built compiles
  | test column operator value =>
    rcases Condition.of_ofTest made with ⟨k, col, op, items, rfl, some, -⟩ | ⟨k, col, op, rfl, -⟩
    · exact .membership k col op some
    · exact .simple k col op value

/-- Resolving a request leaves the state as it was. -/
theorem state_resolve (st : Statement d) (e : String) (clause : Option String) (connector : Value)
    (request : Request (Builder d)) :
    (st.resolve e clause connector request).2.state = st.state := by
  cases request <;> rfl

/-- A test adds a condition to its clause or leaves the state as it was. -/
theorem moves_require {clause : Clause} {column operator value : Argument d}
    (h : st.RequestYields Q (Request.of column operator value)) (connector : Value) :
    st.state.Moves Q st.options.emptyGroup (some clause.part)
      (st.require clause column operator value connector).2.state := by
  unfold require
  split
  · exact .stay _
  · rename_i k _
    have kept := state_resolve st st.options.emptyGroup (some clause.name)
      (Condition.connectorField k) (Request.of column operator value)
    refine moves_change kept fun s' changed => ?_
    obtain ⟨condition, made, rfl⟩ := of_map_eq_ok changed
    exact kept ▸ .condition clause (made_resolve h made)

/-- A test for membership adds a condition on rows or leaves the state as it was. -/
theorem moves_requireMember {operator : String} {column values : Argument d}
    (h : ∀ items, values.items = .ok items →
      st.RequestYields Q (Request.of column (.value (.text operator)) items)) (connector : Value) :
    st.state.Moves Q st.options.emptyGroup (some .rows)
      (st.requireMember operator column values connector).2.state := by
  rw [requireMember_eq]
  cases found : values.items with
  | error e => exact .stay _
  | ok items =>
    have moved := @moves_require d Q st .rows column (.value (.text operator)) items
    exact moved (h items found) connector

/-- An ordering adds to the ordering or leaves the state as it was. -/
theorem moves_order (e : String) (column direction : Value) :
    st.state.Moves Q e (some .ordering) (st.order column direction).2.state := by
  refine moves_change rfl fun s' changed => ?_
  obtain ⟨key, -, rfl⟩ := of_map_eq_ok changed
  exact .ordering key

/-- A paging that is accepted is not below zero. -/
theorem kept_of_isNegativePaging {limit offset : Value}
    (h : isNegativePaging limit offset = .ok false) : isNegative limit = .ok false ∧
      ∀ v, givenOffset offset = some v → isNegative v = .ok false := by
  obtain ⟨below, compared, h⟩ := of_bind_eq_ok h
  cases below with
  | true => cases h
  | false =>
    refine ⟨compared, fun v given => ?_⟩
    rwa [if_neg Bool.false_ne_true, given] at h

/-- Limit and offset are set together if none of them is below zero. -/
theorem moves_page (e : String) (limit offset : Value) :
    st.state.Moves Q e (some .paging) (st.page limit offset).2.state := by
  refine moves_change rfl fun s' changed => ?_
  obtain ⟨negative, compared, changed⟩ := of_bind_eq_ok changed
  cases negative with
  | true => cases changed
  | false =>
    obtain ⟨limitKept, offsetKept⟩ := kept_of_isNegativePaging compared
    exact Except.ok.inj changed ▸ .paging limitKept offsetKept

/-- Running compiled SQL leaves the state as it was. -/
theorem state_running (st : Statement d) {α : Type} (compiled : Except Error Compiled)
    (run : Session d → Bool → Compiled → Except Error α × Session d) :
    (st.running compiled run).2.state = st.state := by
  unfold running
  split <;> rfl

/-- Reading the first row sets the limit to one and leaves the rest of the state as it is. -/
theorem state_first (st : Statement d) :
    st.first.2.state = { st.state with limit := some (.int 1) } :=
  state_running { st with state := { st.state with limit := some (.int 1) } } _ Session.fetchAll

/-! ### Options -/

variable (st : Statement d)

/-- Changing the state leaves the options. -/
theorem options_change (state : Except Error State) : (st.change state).2.options = st.options := by
  cases state <;> rfl

/-- Reading from a source leaves the options. -/
theorem options_readFrom (source : Argument d) (aliasName : Value) :
    (st.readFrom source aliasName).2.options = st.options := by
  unfold readFrom
  split
  · rfl
  · split <;> exact options_change _ _

/-- A union leaves the options. -/
theorem options_union (branch : Argument d) (kind : Value) :
    (st.union branch kind).2.options = st.options := by
  unfold union
  split
  · rfl
  · exact options_change _ _

/-- A test leaves the options. -/
theorem options_require (clause : Clause) (column operator value : Argument d)
    (connector : Value) :
    (st.require clause column operator value connector).2.options = st.options := by
  unfold require
  split
  · rfl
  · refine (options_change _ _).trans ?_
    cases Request.of column operator value <;> rfl

/-- A test for membership leaves the options. -/
theorem options_requireMember (operator : String) (column values : Argument d)
    (connector : Value) :
    (st.requireMember operator column values connector).2.options = st.options := by
  rw [requireMember_eq]
  split
  · rfl
  · exact options_require _ _ _ _ _ _

/-- An ordering leaves the options. -/
theorem options_order (column direction : Value) :
    (st.order column direction).2.options = st.options :=
  options_change st _

/-- Running compiled SQL leaves the options. -/
theorem options_running {α : Type} (compiled : Except Error Compiled)
    (run : Session d → Bool → Compiled → Except Error α × Session d) :
    (st.running compiled run).2.options = st.options := by
  unfold running
  split <;> rfl

end Statement

/-! ## Calls -/

/-- What the callbacks of a call make of fresh statements has a property. -/
def Call.Yields (Q : State → Prop) : Call → Statement d → Prop
  | .readFrom source _, st => st.Yields Q source.denote
  | .union branch _, st => st.Yields Q branch.denote
  | .require _ column operator value _, st =>
    st.RequestYields Q (Request.of column.denote operator.denote value.denote)
  | .requireMember operator column values _, st =>
    ∀ items, values.denote.items = .ok items →
      st.RequestYields Q (Request.of column.denote (.value (.text operator)) items)
  | _, _ => True

/-- Nothing is asked of what callbacks build. -/
theorem Call.yields_anything (call : Call) (st : Statement d) :
    call.Yields (fun _ => True) st := by
  have argument (a : Argument d) : st.Yields (fun _ => True) a := by
    cases a <;> trivial
  have request (r : Request (Builder d)) : st.RequestYields (fun _ => True) r := by
    cases r <;> trivial
  cases call with
  | readFrom source aliasName => exact argument _
  | union branch kind => exact argument _
  | require clause column operator value connector => exact request _
  | requireMember operator column values connector => exact fun _ _ => request _
  | _ => trivial

/-- A call moves the state of its statement. -/
theorem Call.moves {Q : State → Prop} {call : Call} {st : Statement d} (h : call.Yields Q st) :
    st.state.Moves Q st.options.emptyGroup call.part (call.run st).2.state := by
  cases call with
  | select columns => exact .columns _
  | readFrom source aliasName => exact Statement.moves_readFrom _ h _
  | join table first operator second kind shared => exact Statement.moves_join _ _
  | union branch kind => exact Statement.moves_union _ h _
  | require clause column operator value connector => exact Statement.moves_require h _
  | requireMember operator column values connector => exact Statement.moves_requireMember h _
  | group columns => exact .grouping _
  | order column direction => exact Statement.moves_order _ _ _
  | page limit offset => exact Statement.moves_page _ _ _
  | first => exact (Statement.state_first st).symm ▸ .limited
  | get => exact (Statement.state_running st _ _).symm ▸ .stay _
  | insert data => exact (Statement.state_running st _ _).symm ▸ .stay _
  | update data => exact (Statement.state_running st _ _).symm ▸ .stay _
  | delete => exact (Statement.state_running st _ _).symm ▸ .stay _
  | _ => exact .stay _

/-- A call keeps the options of a statement. -/
theorem Call.options_run (call : Call) (st : Statement d) :
    (call.run st).2.options = st.options := by
  cases call with
  | readFrom source aliasName => exact Statement.options_readFrom _ _ _
  | join table first operator second kind shared => exact Statement.options_change _ _
  | union branch kind => exact Statement.options_union _ _ _
  | require clause column operator value connector => exact Statement.options_require _ _ _ _ _ _
  | requireMember operator column values connector =>
    exact Statement.options_requireMember _ _ _ _ _
  | order column direction => exact Statement.options_order _ _ _
  | page limit offset => exact Statement.options_change _ _
  | get => exact Statement.options_running _ _ _
  | first =>
    exact Statement.options_running { st with state := { st.state with limit := some (.int 1) } } _
      Session.fetchAll
  | insert data => exact Statement.options_running _ _ _
  | update data => exact Statement.options_running _ _ _
  | delete => exact Statement.options_running _ _ _
  | _ => rfl

end SqlBuilder
