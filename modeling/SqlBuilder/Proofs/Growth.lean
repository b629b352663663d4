import SqlBuilder.Driver.Recording
import SqlBuilder.Proofs.Moves
import SqlBuilder.Workspace

/-!
# Statements only grow

A call adds to the end of the part that it is about, or sets it: the source once, limit and offset
in place of earlier ones. All other parts stay. What is stored is well formed in every state that a
run reaches, which is what compiling relies on: a table binds nothing, membership tests have values,
no stored text of a group or a subquery is empty, an offset comes with a limit, and a clause has a
text exactly when it has a condition. Both facts are read off the moves that calls can make; they
hold for the statements inside callbacks as well.
-/

set_option autoImplicit false

namespace SqlBuilder

open Sql (Compiled)

variable {d : Driver}

/-! ## Growing -/

/-- A state contains another one: its lists start with those of the other, and a source stays. -/
structure State.Extends (s s' : State) : Prop where
  /-- The columns. -/
  columns : s.columns <+: s'.columns
  /-- The source. -/
  source : ∀ known, s.source = some known → s'.source = some known
  /-- The joins. -/
  joins : s.joins <+: s'.joins
  /-- The conditions on rows. -/
  rows : s.rowConditions <+: s'.rowConditions
  /-- The conditions on groups. -/
  groups : s.groupConditions <+: s'.groupConditions
  /-- The grouping columns. -/
  grouping : s.grouping <+: s'.grouping
  /-- The sort keys. -/
  ordering : s.ordering <+: s'.ordering
  /-- The united statements. -/
  unions : s.unions <+: s'.unions

namespace State

variable {Q : State → Prop} {e : String} {s s' s'' : State} {part : Option Part}

/-- A state contains itself. -/
theorem Extends.refl (s : State) : s.Extends s :=
  ⟨List.prefix_rfl, fun _ known => known, List.prefix_rfl, List.prefix_rfl, List.prefix_rfl,
    List.prefix_rfl, List.prefix_rfl, List.prefix_rfl⟩

/-- Containing another state is transitive. -/
theorem Extends.trans (h : s.Extends s') (h' : s'.Extends s'') : s.Extends s'' where
  columns := h.columns.trans h'.columns
  source known found := h'.source known (h.source known found)
  joins := h.joins.trans h'.joins
  rows := h.rows.trans h'.rows
  groups := h.groups.trans h'.groups
  grouping := h.grouping.trans h'.grouping
  ordering := h.ordering.trans h'.ordering
  unions := h.unions.trans h'.unions

/-- A state in which a source is set for the first time contains the one before. -/
theorem extends_withSource (free : s.source = none) (source : Source) :
    s.Extends (Statement.withSource s source) :=
  { Extends.refl s with
    source := fun known found => by
      rw [free] at found
      cases found }

/-- A state with a further condition contains the one before. -/
theorem extends_addCondition (s : State) (clause : Clause) (condition : Condition) :
    s.Extends (s.addCondition clause condition) := by
  cases clause with
  | rows => exact { Extends.refl s with rows := List.prefix_append _ _ }
  | groups => exact { Extends.refl s with groups := List.prefix_append _ _ }

/-- A move only adds. -/
theorem Moves.extends (h : s.Moves Q e part s') : s.Extends s' := by
  cases h with
  | stay part => exact .refl s
  | columns more => exact { Extends.refl s with columns := List.prefix_append _ _ }
  | table free plain unbound => exact extends_withSource free _
  | derived free built compiles aliasName => exact extends_withSource free _
  | join text => exact { Extends.refl s with joins := List.prefix_append _ _ }
  | condition clause made => exact extends_addCondition s clause _
  | grouping more => exact { Extends.refl s with grouping := List.prefix_append _ _ }
  | ordering key => exact { Extends.refl s with ordering := List.prefix_append _ _ }
  | paging limitKept offsetKept => exact { Extends.refl s with }
  | limited => exact { Extends.refl s with }
  | union kind built compiles => exact { Extends.refl s with unions := List.prefix_append _ _ }

end State

/-! ## Well-formed states -/

namespace Condition

/-- A stored condition is well formed. -/
structure WellFormed (c : Condition) : Prop where
  /-- The connector is one of the two. -/
  connector : c.connector.keyword = "AND" ∨ c.connector.keyword = "OR"
  /-- A membership test has values. -/
  values : ∀ k column operator values, c = .membership k column operator values → values ≠ []
  /-- The text of a subquery is not empty. -/
  subquery : ∀ k column operator sql bindings,
    c = .subquery k column operator sql bindings → sql ≠ ""
  /-- The text of a group is not empty. -/
  group : ∀ k sql bindings, c = .group k sql bindings → sql ≠ ""

variable {c : Condition}

/-- Conditions are joined by AND or by OR. -/
theorem keyword_connector (c : Condition) :
    c.connector.keyword = "AND" ∨ c.connector.keyword = "OR" := by
  cases c.connector
  · exact .inl rfl
  · exact .inr rfl

/-- A text that ends in a text that is not empty is not empty. -/
theorem append_ne_empty {a b : String} (h : b ≠ "") : a ++ b ≠ "" :=
  fun none => h (String.append_eq_empty_iff.1 none).2

/-- A well-formed condition has a text. -/
theorem WellFormed.render_ne_empty (h : c.WellFormed) : c.render ≠ "" := by
  cases c with
  | simple k column operator value => exact append_ne_empty (by decide)
  | nullTest k column operator =>
    rw [render, String.append_assoc]
    exact append_ne_empty fun none => absurd (String.append_eq_empty_iff.1 none).1 (by decide)
  | membership k column operator values => exact append_ne_empty (by decide)
  | subquery k column operator sql bindings => exact append_ne_empty (by decide)
  | group k sql bindings => exact h.group k sql bindings rfl

/-- Well-formed conditions have a text exactly when there are any. -/
theorem renderAll_eq_empty_iff {cs : List Condition} (h : ∀ c ∈ cs, c.WellFormed) :
    renderAll cs = "" ↔ cs = [] := by
  cases cs with
  | nil => exact ⟨fun _ => rfl, fun _ => rfl⟩
  | cons first rest =>
    refine ⟨fun none => ?_, fun none => by cases none⟩
    have shown := (h first List.mem_cons_self).render_ne_empty
    exact absurd (String.append_eq_empty_iff.1 none).1 shown

end Condition

/-- What compiles is a text. -/
theorem State.sql_ne_empty {s : State} {compiled : Compiled} (h : s.compile = .ok compiled) :
    compiled.sql ≠ "" := by
  obtain ⟨sql, text, rfl⟩ := of_map_eq_ok h
  obtain ⟨source, -, text⟩ := of_bind_eq_ok text
  obtain ⟨columns, -, text⟩ := of_bind_eq_ok text
  obtain ⟨groups, -, text⟩ := of_bind_eq_ok text
  obtain ⟨-, -, text⟩ := of_bind_eq_ok text
  rw [← Except.ok.inj text]
  intro none
  simp [String.append_eq_empty_iff] at none

/-- A condition that a call makes is well formed. -/
theorem Condition.Made.wellFormed {Q : State → Prop} {e : String} {clause : Clause}
    {c : Condition} (h : c.Made Q e clause) : c.WellFormed := by
  cases h with
  | simple k column operator value => exact ⟨keyword_connector _, nofun, nofun, nofun⟩
  | nullTest k column operator => exact ⟨keyword_connector _, nofun, nofun, nofun⟩
  | membership k column operator some =>
    refine ⟨keyword_connector _, ?_, nofun, nofun⟩
    rintro _ _ _ _ ⟨⟩
    exact some
  | subquery k column operator built compiles =>
    refine ⟨keyword_connector _, nofun, ?_, nofun⟩
    rintro _ _ _ _ _ ⟨⟩
    exact State.sql_ne_empty compiles
  | group k built =>
    refine ⟨keyword_connector _, nofun, nofun, ?_⟩
    rintro _ _ _ ⟨⟩
    exact append_ne_empty (by decide)

/-- The keyword of a union is one of three. -/
theorem UnionKind.keyword_mem (kind : UnionKind) : kind.keyword ∈ ["", "ALL", "DISTINCT"] := by
  cases kind <;> decide

/-- A state is well formed. -/
structure State.WellFormed (s : State) : Prop where
  /-- A source that is no derived table binds nothing. -/
  source : ∀ source, s.source = some source → source.derived = false → source.bindings = []
  /-- The conditions are well formed. -/
  conditions : ∀ clause, ∀ c ∈ s.conditions clause, c.WellFormed
  /-- The kinds of unions are known. -/
  unions : ∀ branch ∈ s.unions, branch.kind.keyword ∈ ["", "ALL", "DISTINCT"]
  /-- The limit is not below zero. -/
  limit : ∀ v, s.limit = some v → Statement.isNegative v = .ok false
  /-- The offset is not below zero. -/
  offset : ∀ v, s.offset = some v → Statement.isNegative v = .ok false
  /-- An offset comes with a limit. -/
  paging : s.offset.isSome → s.limit.isSome
  /-- A clause has a text exactly when it has a condition. -/
  clauseText : ∀ clause, s.clauseText clause = "" ↔ s.conditions clause = []

namespace State

variable {Q : State → Prop} {e : String} {s s' : State} {part : Option Part}

/-- A fresh state is well formed. -/
theorem wellFormed_empty : ({} : State).WellFormed where
  source := nofun
  conditions clause c h := by cases clause <;> cases h
  unions := nofun
  limit := nofun
  offset := nofun
  paging := nofun
  clauseText clause := by cases clause <;> exact ⟨fun _ => rfl, fun _ => rfl⟩

/-- A state with a further condition is well formed if the condition is. -/
theorem WellFormed.addCondition (h : s.WellFormed) (clause : Clause) {condition : Condition}
    (made : condition.WellFormed) : (s.addCondition clause condition).WellFormed := by
  have grown : ∀ other, ∀ c ∈ (s.addCondition clause condition).conditions other,
      c.WellFormed := by
    intro other c hc
    by_cases same : other = clause
    · subst same
      rw [conditions_addCondition] at hc
      rcases List.mem_append.1 hc with known | new
      · exact h.conditions other c known
      · exact List.mem_singleton.1 new ▸ made
    · rw [conditions_addCondition_of_ne s condition same] at hc
      exact h.conditions other c hc
  have texts other := Condition.renderAll_eq_empty_iff (grown other)
  cases clause with
  | rows => exact { h with conditions := grown, clauseText := texts }
  | groups => exact { h with conditions := grown, clauseText := texts }

/-- A move keeps a state well formed. -/
theorem WellFormed.moves (h : s.WellFormed) (moved : s.Moves Q e part s') : s'.WellFormed := by
  cases moved with
  | stay part => exact h
  | columns more => exact { h with }
  | table free plain unbound =>
    refine { h with source := ?_ }
    rintro _ ⟨⟩ -
    exact unbound
  | derived free built compiles aliasName =>
    refine { h with source := ?_ }
    rintro _ ⟨⟩ plain
    cases plain
  | join text => exact { h with }
  | condition clause made => exact h.addCondition clause made.wellFormed
  | grouping more => exact { h with }
  | ordering key => exact { h with }
  | paging limitKept offsetKept =>
    refine { h with limit := ?_, offset := offsetKept, paging := fun _ => rfl }
    rintro _ ⟨⟩
    exact limitKept
  | limited =>
    refine { h with limit := ?_, paging := fun _ => rfl }
    rintro _ ⟨⟩
    rfl
  | union kind built compiles =>
    refine { h with unions := ?_ }
    intro branch hb
    rcases List.mem_append.1 hb with known | new
    · exact h.unions branch known
    · rw [List.mem_singleton.1 new]
      exact UnionKind.keyword_mem kind

end State

/-! ## Steps -/

/-- The part that a step is about. -/
def Step.part : Step → Option Part
  | .call made => made.part
  | _ => none

/-- What a step does to a state: it adds to the part that it is about and leaves the others; reading
the first row sets only the limit. -/
structure State.Grows (step : Step) (s s' : State) : Prop where
  /-- Nothing is taken away. -/
  grown : s.Extends s'
  /-- The other parts stay. -/
  others : ∀ part, step.part ≠ some part → s'.content part = s.content part
  /-- Reading the first row sets the limit and keeps the offset. -/
  first : step = .call .first → s' = { s with limit := some (.int 1) }

/-- A call grows the state of its statement. -/
theorem Call.grows (call : Call) (st : Statement d) :
    st.state.Grows (.call call) (call.run st).2.state where
  grown := (Call.moves (call.yields_anything st)).extends
  others _ ne := (Call.moves (call.yields_anything st)).content_of_ne ne
  first := by
    rintro ⟨⟩
    exact Statement.state_first st

/-- A call leaves a state well formed, failing or not. -/
theorem Call.wellFormed_run (call : Call) {st : Statement d} (h : st.state.WellFormed) :
    (call.run st).2.state.WellFormed :=
  h.moves (Call.moves (call.yields_anything st))

/-- The statements that callbacks given to a statement work on: fresh ones, those after further
calls, and those of callbacks in these. -/
inductive Statement.Hosts (st : Statement d) : Statement d → Prop
  /-- The statement that a callback is given. -/
  | fresh : Hosts st st.fresh
  /-- A statement in a callback after a call. -/
  | call {inner : Statement d} (h : Hosts st inner) (call : Call) : Hosts st (call.run inner).2
  /-- The statement that a callback in a callback is given. -/
  | nested {inner : Statement d} (h : Hosts st inner) : Hosts st inner.fresh

/-- The states in callbacks are well formed. -/
theorem Statement.Hosts.wellFormed {st inner : Statement d} (h : st.Hosts inner) :
    inner.state.WellFormed := by
  induction h with
  | fresh => exact State.wellFormed_empty
  | call _ call ih => exact call.wellFormed_run ih
  | nested _ _ => exact State.wellFormed_empty

/-! ## Runs -/

namespace Workspace

variable (w : Workspace d)

/-- Using the session of a workspace leaves the state alone, if what is done with the session does.
-/
theorem state_withSession {act : Session d → Except Error StepAnswer × Workspace d}
    (h : ∀ session, (act session).2.statement.state = w.statement.state) :
    (w.withSession act).2.statement.state = w.statement.state := by
  unfold withSession
  split
  · exact h _
  · rfl

/-- Acting on an iterator leaves the state alone. -/
theorem state_withIterator (index : Nat)
    (act : RowIterator d → Session d → Except Error StepAnswer × RowIterator d × Session d) :
    (w.withIterator index act).2.statement.state = w.statement.state := by
  unfold withIterator
  split
  · rfl
  · exact w.state_withSession fun _ => rfl

/-- A call on a prepared statement by hand leaves the state alone. -/
theorem state_withHandle (index : Nat)
    (act : d.Prepared → Session d → Except Error StepAnswer × d.Prepared × Session d) :
    (w.withHandle index act).2.statement.state = w.statement.state := by
  unfold withHandle
  split
  · rfl
  · exact w.state_withSession fun _ => rfl

/-- Running compiled SQL leaves the state alone. -/
theorem state_running {α : Type} (kind : α → StepAnswer) (compiled : Compiled)
    (run : Session d → Bool → Compiled → Except Error α × Session d) :
    (w.running kind compiled run).2.statement.state = w.statement.state := by
  unfold running
  split <;> rfl

/-- Only calls change the state, and a fresh statement empties it. -/
theorem state_step {step : Step} (noCall : ∀ call, step ≠ .call call) (same : step ≠ .renew) :
    (w.step step).2.statement.state = w.statement.state := by
  cases step with
  | call call => exact absurd rfl (noCall call)
  | renew => exact absurd rfl same
  | lastInsertId => exact w.state_withSession fun _ => rfl
  | morph transform spread =>
    unfold step
    dsimp only
    split <;> rfl
  | next index => exact w.state_withIterator index _
  | rest index => exact w.state_withIterator index _
  | stop index => exact w.state_withIterator index _
  | fetchAll compiled => exact w.state_running _ _ _
  | insert compiled => exact w.state_running _ _ _
  | affect compiled => exact w.state_running _ _ _
  | prepare sql => exact w.state_withSession fun _ => rfl
  | bind index position value tag => exact w.state_withHandle index _
  | execute index => exact w.state_withHandle index _
  | fetch index => exact w.state_withHandle index _
  | close index => exact w.state_withHandle index _
  | columns index => exact w.state_withHandle index _
  | rowCount index => exact w.state_withHandle index _
  | describe => rfl
  | rejected error => rfl

variable {w}

/-- A step grows the state, unless it starts a fresh statement. -/
theorem grows_step {step : Step} (same : step ≠ .renew) :
    w.statement.state.Grows step (w.step step).2.statement.state := by
  by_cases made : ∃ call, step = .call call
  · obtain ⟨call, rfl⟩ := made
    exact call.grows w.statement
  -- Other steps leave the state alone, as long as they do not start a fresh statement.
  · have noCall call : step ≠ .call call := fun is => made ⟨call, is⟩
    rw [w.state_step noCall same]
    exact ⟨.refl _, fun _ _ => rfl, fun is => absurd is (noCall .first)⟩

/-- A step leaves a state well formed, failing or not. -/
theorem wellFormed_step (h : w.statement.state.WellFormed) (step : Step) :
    (w.step step).2.statement.state.WellFormed := by
  by_cases made : ∃ call, step = .call call
  · obtain ⟨call, rfl⟩ := made
    exact call.wellFormed_run h
  · by_cases same : step = .renew
    · subst same
      exact State.wellFormed_empty
    · rwa [w.state_step (fun call is => made ⟨call, is⟩) same]

/-- Steps one after another leave a state well formed. -/
theorem wellFormed_steps (h : w.statement.state.WellFormed) (todo : List Step) :
    (w.steps todo).2.statement.state.WellFormed := by
  induction todo generalizing w with
  | nil => exact h
  | cons step rest ih => exact ih (wellFormed_step h step)

/-- Steps one after another only add to the state, unless one starts a fresh statement. -/
theorem extends_steps {todo : List Step} (same : .renew ∉ todo) :
    w.statement.state.Extends (w.steps todo).2.statement.state := by
  induction todo generalizing w with
  | nil => exact .refl _
  | cons step rest ih =>
    have first : step ≠ .renew := fun is => same (is ▸ List.mem_cons_self)
    exact (grows_step first).grown.trans (ih fun later => same (List.mem_cons_of_mem _ later))

end Workspace

/-- A statement only ever grows and stays well formed. In every run of steps from a blank statement
the reached state is well formed, the next step grows it, and so do all further steps together; in
every statement inside a callback that the reached statement is given, the state is well formed, and
the next call grows it. -/
theorem statement_only_grows (options : Options) (session : Option (Session d))
    (before : List Step) :
    let w := (({ statement := .blank options session } : Workspace d).steps before).2
    w.statement.state.WellFormed ∧
      (∀ step, step ≠ .renew → w.statement.state.Grows step (w.step step).2.statement.state) ∧
      (∀ later, .renew ∉ later →
        w.statement.state.Extends (w.steps later).2.statement.state) ∧
      ∀ inner, w.statement.Hosts inner →
        inner.state.WellFormed ∧
          ∀ call, inner.state.Grows (.call call) (call.run inner).2.state := by
  intro w
  refine ⟨?_, ?_, ?_, ?_⟩
  · exact Workspace.wellFormed_steps State.wellFormed_empty before
  · exact fun step same => Workspace.grows_step same
  · exact fun later same => Workspace.extends_steps same
  · exact fun inner hosted => ⟨hosted.wellFormed, fun call => call.grows inner⟩

/-- A source, a group and a paging. -/
def pagedGroup : List Step :=
  [.call (.readFrom (.value (.text "orders")) (.value .null)),
    .call (.require .rows
      (.callback [.require .rows (.value (.text "paid")) (.value (.int 1)) (.value .omitted)
        (.value (.text "AND"))]) (.value .omitted) (.value .omitted) (.value (.text "AND"))),
    .call (.page (.value (.int 5)) (.value (.int 2)))]

/-- After a source, a group and a paging, reading the first row without a driver fails and still
sets the limit; sort keys and further conditions are added at the end. -/
theorem paged_group_grows :
    let w := (({ statement := .blank {} none } : Workspace Recording.driver).steps pagedGroup).2
    let later := [.call .first, .call (.order (.value (.text "id")) (.value (.text "desc"))),
      .call (.require .rows (.value (.text "total")) (.value (.text ">")) (.value (.int 9))
        (.value (.text "or")))]
    w.statement.state.clauseText .rows = "(paid = ?)" ∧
      (w.steps later).2.statement.state.clauseText .rows = "(paid = ?) OR total > ?" ∧
      w.statement.state.WellFormed ∧
      (w.step (.call .first)).2.statement.state =
        { w.statement.state with limit := some (.int 1) } ∧
      w.statement.state.Extends (w.steps later).2.statement.state := by
  intro w later
  obtain ⟨wellFormed, grows, extend, -⟩ :=
    statement_only_grows (d := Recording.driver) {} none pagedGroup
  refine ⟨by decide +kernel, by decide +kernel, wellFormed, ?_, ?_⟩
  · exact (grows (.call .first) nofun).first rfl
  · exact extend later (by simp [later])

end SqlBuilder
