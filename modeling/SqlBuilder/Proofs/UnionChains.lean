import SqlBuilder.Driver.Recording
import SqlBuilder.Proofs.Moves
import SqlBuilder.Proofs.UnionRows

/-!
# Unions of unions

The unions that a program makes form a tree: a union call adds a branch, which is the tree of the
statement that its callback builds. The compiled text of the program is the chain of its tree. So
the rows of the compiled text are those of the statement, with the branches combined in the order of
the calls, exactly when the tree meets the condition under which chains keep the rows of trees. A
UNION with a branch that ends in a UNION ALL does not.
-/

set_option autoImplicit false

namespace SqlBuilder

open Sql (Compiled)

variable {d : Driver}

/-! ## The tree of a program -/

/-- A statement without its unions. -/
def State.alone (s : State) : State :=
  { s with unions := [] }

/-- The tree of a SELECT with branches, in their order. -/
def UnionTree.of (own : String) (branches : List (UnionKind × UnionTree)) : UnionTree :=
  branches.foldl (fun tree branch => .union tree branch.1 branch.2) (.select own)

mutual

/-- The tree of the statement that a callback builds for a statement, if it compiles. -/
def Arg.unionTree : Arg → Statement d → Option UnionTree
  | .value _, _ => none
  | .callback calls, st =>
    match Call.runAll calls st.fresh with
    | (.ok _, inner) =>
      inner.state.alone.selectText.toOption.map fun own =>
        .of own (Call.unitedAll calls st.fresh)
    | (.error _, _) => none

/-- The branch that a call adds to a statement, if any. -/
def Call.united : Call → Statement d → List (UnionKind × UnionTree)
  | .union branch kind, st =>
    match branch.unionTree st, UnionKind.ofValue kind.toValue with
    | some tree, .ok kind => [(kind, tree)]
    | _, _ => []
  | _, _ => []

/-- The branches that calls add to a statement, up to the first call that fails. -/
def Call.unitedAll : List Call → Statement d → List (UnionKind × UnionTree)
  | [], _ => []
  | call :: rest, st =>
    call.united st ++
      match call.run st with
      | (.ok _, st) => Call.unitedAll rest st
      | (.error _, _) => []

end

/-- The branches that a program adds to a statement. -/
def Call.branches : List Call → Statement d → List (UnionKind × UnionTree)
  | [], _ => []
  | call :: rest, st => call.united st ++ Call.branches rest (call.run st).2

/-! ## Chains of trees -/

namespace UnionTree

/-- The texts of branches, each with its kind. -/
def texts (branches : List (UnionKind × UnionTree)) : List (UnionKind × String) :=
  branches.map fun branch => (branch.1, branch.2.chain.text)

/-- The chain of a union has the text of the chain of its first part, and then that of its branch.
-/
theorem text_chain_union (tree : UnionTree) (kind : UnionKind) (branch : UnionTree) :
    (union tree kind branch).chain.text =
      tree.chain.text ++ (kind.opening ++ branch.chain.text) := by
  simp [chain, UnionChain.text, String.join_append, String.append_assoc]

/-- The chain of a SELECT with branches is its text and theirs, each after its kind. -/
theorem text_chain_of (own : String) (branches : List (UnionKind × UnionTree)) :
    (UnionTree.of own branches).chain.text =
      own ++ String.join ((texts branches).map fun branch => branch.1.opening ++ branch.2) := by
  suffices grown : ∀ tree : UnionTree,
      (branches.foldl (fun tree branch => .union tree branch.1 branch.2) tree).chain.text =
        tree.chain.text ++
          String.join ((texts branches).map fun branch => branch.1.opening ++ branch.2) by
    rw [UnionTree.of, grown]
    simp [chain, UnionChain.text]
  induction branches with
  | nil => simp [texts]
  | cons branch branches ih =>
    intro tree
    have split : texts (branch :: branches) =
        (branch.1, branch.2.chain.text) :: texts branches := rfl
    rw [List.foldl_cons, ih, text_chain_union, split, List.map_cons, String.join_cons]
    simp only [String.append_assoc]

end UnionTree

namespace State

/-- The kinds and the texts of the united statements. -/
def unionTexts (s : State) : List (UnionKind × String) :=
  s.unions.map fun branch => (branch.kind, branch.sql)

/-- A SELECT with unions is the SELECT alone and then the unions. -/
theorem selectText_eq (s : State) : s.selectText = s.alone.selectText.map (· ++ s.unionsText) := by
  have source : s.alone.requireSource "select" = s.requireSource "select" := rfl
  have columns : s.alone.columnsText = s.columnsText := rfl
  have groups : s.alone.groupText = s.groupText := rfl
  unfold selectText
  rw [source, columns, groups]
  cases s.requireSource "select" with
  | error e => rfl
  | ok source =>
    cases s.columnsText with
    | error e => rfl
    | ok columns =>
      cases s.groupText with
      | error e => rfl
      | ok groups =>
        have none : s.alone.unionsText = "" := rfl
        have paging : s.alone.shownPaging = s.shownPaging := rfl
        simp only [bind, Except.bind, paging, none, String.append_empty]
        cases Value.requireWritable s.shownPaging <;> rfl

/-- The unions of a state are written one after another, each after its keywords. -/
theorem unionsText_eq (s : State) :
    s.unionsText = String.join (s.unionTexts.map fun branch => branch.1.opening ++ branch.2) := by
  rw [unionsText, unionTexts, List.map_map]
  exact congrArg (fun render => String.join (s.unions.map render))
    (funext UnionBranch.render_eq)

/-- A state whose unions are the chains of branches compiles to the chain of the tree. -/
theorem selectText_of_unionTexts {s : State} {branches : List (UnionKind × UnionTree)}
    (h : s.unionTexts = UnionTree.texts branches) :
    s.selectText = s.alone.selectText.map fun own => (UnionTree.of own branches).chain.text := by
  rw [selectText_eq, unionsText_eq, h]
  exact congrArg s.alone.selectText.map (funext fun own => (UnionTree.text_chain_of own _).symm)

end State

/-! ## Chains of programs -/

/-- A union adds the text of what its callback builds, if both the callback and the kind are
accepted. -/
theorem Statement.unionTexts_union (st : Statement d) (build : Builder d) (kind : Value) :
    (st.union (.callback build) kind).2.state.unionTexts =
      st.state.unionTexts ++
        match (st.nestedCompiled build).1, UnionKind.ofValue kind with
        | .ok compiled, .ok kind => [(kind, compiled.sql)]
        | _, _ => [] := by
  unfold Statement.union
  dsimp only
  cases (st.nestedCompiled build).1 with
  | error e => exact (List.append_nil _).symm
  | ok compiled =>
    cases UnionKind.ofValue kind with
    | error e => exact (List.append_nil _).symm
    | ok kind => exact List.map_append

/-- A call that is not about the unions keeps them and adds no branch. -/
theorem Call.unionTexts_run_of_ne {call : Call} (ne : call.part ≠ some .unions)
    (st : Statement d) : (call.run st).2.state.unionTexts = st.state.unionTexts ∧
      call.united st = [] := by
  constructor
  · have kept := (Call.moves (call.yields_anything st)).content_of_ne ne
    exact congrArg (List.map fun branch : UnionBranch => (branch.kind, branch.sql)) kept
  · cases call <;> first | exact absurd rfl ne | simp [Call.united]

mutual

/-- The tree of a callback is that of what it builds: its chain is the compiled text. -/
theorem Arg.text_unionTree (calls : List Call) (st : Statement d) :
    ((Arg.callback calls).unionTree st).map (·.chain.text) =
      (st.nestedCompiled fun st => Call.runAll calls st).1.toOption.map Compiled.sql := by
  have built := Call.unionTexts_runAll calls st.fresh
  rw [Arg.unionTree, Statement.nestedCompiled, Statement.nested]
  cases made : Call.runAll calls st.fresh with
  | mk outcome inner =>
    cases outcome with
    | error e => rfl
    | ok done =>
      have branches : inner.state.unionTexts =
          UnionTree.texts (Call.unitedAll calls st.fresh) := by
        rw [made] at built
        exact built
      have text := State.selectText_of_unionTexts branches
      show (inner.state.alone.selectText.toOption.map _).map _ =
        inner.state.compile.toOption.map Compiled.sql
      rw [State.compile, text]
      cases inner.state.alone.selectText <;> rfl

/-- A call adds the chain of its branch to the unions. -/
theorem Call.unionTexts_run (call : Call) (st : Statement d) :
    (call.run st).2.state.unionTexts =
      st.state.unionTexts ++ UnionTree.texts (call.united st) := by
  by_cases own : call.part = some .unions
  · cases call with
    | union branch kind =>
      cases branch with
      | value v => exact (List.append_nil _).symm
      | callback calls =>
        have tree := Arg.text_unionTree calls st
        rw [Call.united]
        -- A union whose branch does not compile, or whose kind is unknown, unites nothing.
        refine (st.unionTexts_union _ kind.toValue).trans (congrArg (st.state.unionTexts ++ ·) ?_)
        cases compiled : (st.nestedCompiled fun st => Call.runAll calls st).1 with
        | error e =>
          rw [compiled] at tree
          rw [Option.map_eq_none_iff.1 tree]
          rfl
        | ok compiled' =>
          rw [compiled] at tree
          obtain ⟨branch, found, text⟩ := Option.map_eq_some_iff.1 tree
          rw [found]
          cases UnionKind.ofValue kind.toValue with
          | error e => rfl
          | ok kind => exact congrArg (fun sql => [(kind, sql)]) text.symm
    | require clause column operator value connector => cases clause <;> cases own
    | _ => cases own
  · obtain ⟨kept, none⟩ := Call.unionTexts_run_of_ne own st
    rw [kept, none]
    exact (List.append_nil _).symm

/-- The texts that calls unite with a statement come after those that were united before. -/
theorem Call.unionTexts_runAll (calls : List Call) (st : Statement d) :
    (Call.runAll calls st).2.state.unionTexts =
      st.state.unionTexts ++ UnionTree.texts (Call.unitedAll calls st) := by
  cases calls with
  | nil => exact (List.append_nil _).symm
  | cons call rest =>
    have first := Call.unionTexts_run call st
    rw [Call.runAll, Call.unitedAll, UnionTree.texts, List.map_append, ← List.append_assoc]
    cases made : call.run st with
    | mk outcome st' =>
      rw [made] at first
      cases outcome with
      | error e => exact first.trans (List.append_nil _).symm
      | ok answer =>
        have later := Call.unionTexts_runAll rest st'
        rw [first] at later
        exact later

end

/-- A program adds the chains of its branches to the unions. -/
theorem Call.unionTexts_attempt (calls : List Call) (st : Statement d) :
    (Call.attempt calls st).2.state.unionTexts =
      st.state.unionTexts ++ UnionTree.texts (Call.branches calls st) := by
  induction calls generalizing st with
  | nil => exact (List.append_nil _).symm
  | cons call rest ih =>
    have later := ih (call.run st).2
    rw [Call.unionTexts_run, List.append_assoc] at later
    rw [Call.branches, UnionTree.texts, List.map_append]
    exact later

/-- Unions of unions keep their rows exactly under a condition on their kinds. A program that
compiles has a tree: its own SELECT with the branches of its union calls, in the order of the calls,
each with the text that the nested statement compiles to on its own. The compiled text is the chain
of the tree. It has, for all rows of the SELECTs, the rows of the SELECT combined with what the
branches contribute if and only if the tree meets the condition, where a branch contributes the rows
of its own text or, read all the way down, those of its own tree. -/
theorem unions_of_unions {R : Type} [DecidableEq R] [Inhabited R] (options : Options)
    (session : Option (Session d)) (calls : List Call) {compiled : Compiled}
    (compiles : (Call.attempt calls (.blank options session)).2.state.compile = .ok compiled) :
    let st : Statement d := .blank options session
    let reached := (Call.attempt calls st).2.state
    ∃ own, reached.alone.selectText = .ok own ∧
      let tree := UnionTree.of own (Call.branches calls st)
      reached.unionTexts = UnionTree.texts (Call.branches calls st) ∧
        compiled.sql = tree.chain.text ∧
        ((∀ rows : ℕ → Multiset R, tree.chain.rows rows = tree.rowsOfChains rows) ↔ tree.Keeps) ∧
        ((∀ rows : ℕ → Multiset R, tree.chain.rows rows = tree.rowsOfTrees rows) ↔
          tree.Keeps) := by
  intro st reached
  have branches : reached.unionTexts = UnionTree.texts (Call.branches calls st) :=
    Call.unionTexts_attempt calls st
  obtain ⟨sql, text, rfl⟩ := of_map_eq_ok compiles
  have spliced : reached.selectText = reached.alone.selectText.map fun own =>
      (UnionTree.of own (Call.branches calls st)).chain.text :=
    State.selectText_of_unionTexts branches
  obtain ⟨own, alone, chain⟩ := of_map_eq_ok (spliced.symm.trans text)
  obtain ⟨chains, trees⟩ :=
    UnionTree.rows_chain_eq_iff (default : R) (UnionTree.of own (Call.branches calls st))
  exact ⟨own, alone, branches, chain.symm, chains, trees⟩

/-- A callback that reads from a table and makes further calls. -/
def tableThen (name : String) (calls : List Call) : Arg :=
  .callback (.readFrom (.value (.text name)) (.value .null) :: calls)

/-- A UNION ALL with a UNION ALL in its branch, after a UNION. -/
def allAfterUnion : List Call :=
  [.readFrom (.value (.text "a")) (.value .null),
    .union (tableThen "b" []) (.value (.text "")),
    .union (tableThen "c" [.union (tableThen "d" []) (.value (.text "all"))])
      (.value (.text "all"))]

/-- A UNION ALL after a UNION keeps the rows when its branch has nothing but UNION ALL. -/
theorem unions_of_unions_allAfterUnion :
    let tree := UnionTree.of "SELECT * FROM a"
      (Call.branches allAfterUnion (.blank {} none : Statement Recording.driver))
    tree.chain.text = "SELECT * FROM a UNION SELECT * FROM b UNION ALL SELECT * FROM c " ++
        "UNION ALL SELECT * FROM d" ∧
      ∀ rows : ℕ → Multiset ℕ,
        tree.chain.rows rows = tree.rowsOfChains rows ∧
          tree.chain.rows rows = tree.rowsOfTrees rows := by
  have shown : (Call.attempt allAfterUnion
      (.blank {} none : Statement Recording.driver)).2.state.compile.toOption.isSome = true := by
    decide +kernel
  have first : (Call.attempt allAfterUnion
      (.blank {} none : Statement Recording.driver)).2.state.alone.selectText.toOption =
        some "SELECT * FROM a" := by
    decide +kernel
  have keeps : (UnionTree.of "SELECT * FROM a"
      (Call.branches allAfterUnion (.blank {} none : Statement Recording.driver))).Keeps := by
    decide +kernel
  cases compiles : (Call.attempt allAfterUnion
      (.blank {} none : Statement Recording.driver)).2.state.compile with
  | error e =>
    rw [compiles] at shown
    cases shown
  | ok compiled =>
    obtain ⟨own, alone, -, -, chains, trees⟩ :=
      unions_of_unions (R := ℕ) (d := Recording.driver) {} none allAfterUnion compiles
    rw [alone] at first
    obtain rfl := Option.some.inj first
    exact ⟨by decide +kernel, fun rows => ⟨chains.2 keeps rows, trees.2 keeps rows⟩⟩

/-- A UNION with a UNION ALL in its branch. -/
def unionOfUnionAll : List Call :=
  [.readFrom (.value (.text "a")) (.value .null),
    .union (tableThen "b" [.union (tableThen "c" []) (.value (.text "ALL"))])
      (.value (.text ""))]

/-- A UNION whose branch ends in a UNION ALL does not keep the rows: with one equal row in each of
three tables, the compiled text has it twice, and the statement united with its branch once. -/
theorem unionOfUnionAll_repeats :
    let st : Statement Recording.driver := .blank {} none
    let reached := (Call.attempt unionOfUnionAll st).2.state
    let tree := UnionTree.of "SELECT * FROM a" (Call.branches unionOfUnionAll st)
    let rows : ℕ → Multiset ℕ := fun _ => {7}
    reached.compile.toOption.map Compiled.sql =
        some "SELECT * FROM a UNION SELECT * FROM b UNION ALL SELECT * FROM c" ∧
      reached.alone.selectText.toOption = some "SELECT * FROM a" ∧
      reached.unionTexts = UnionTree.texts (Call.branches unionOfUnionAll st) ∧
      tree.chain.text = "SELECT * FROM a UNION SELECT * FROM b UNION ALL SELECT * FROM c" ∧
      tree.chain.rows rows = {7, 7} ∧ tree.rowsOfChains rows = {7} ∧
      tree.rowsOfTrees rows = {7} := by
  refine ⟨?_, ?_, ?_, ?_, ?_, ?_, ?_⟩ <;> decide +kernel

end SqlBuilder
