import Mathlib.Algebra.Order.Group.Multiset
import Mathlib.Data.Multiset.Dedup
import SqlBuilder.Proofs.Fragment

/-!
# The rows of united statements

The compiled text of a statement with unions is a chain of SELECTs, which is read from the left:
UNION ALL adds rows, every other kind also removes repetitions. The statement itself is a tree,
since the statements in its unions can have unions of their own, and these are spliced into the
chain without brackets. `UnionTree.rows_chain_eq_iff` says for which trees the chain has the rows
that the tree stands for, whatever the rows of the SELECTs are: from the last union without
repetition on, no branch may bring a union of the other sort that changes how repetitions count.
-/

set_option autoImplicit false

namespace SqlBuilder

/-! ## Chains -/

/-- SELECTs in a row: the first one, and each further one with the kind of union before it. -/
structure UnionChain where
  /-- The first SELECT. -/
  first : String
  /-- The further SELECTs. -/
  rest : List (UnionKind × String)
  deriving DecidableEq

namespace UnionChain

/-- The text of a chain. -/
def text (chain : UnionChain) : String :=
  chain.first ++ String.join (chain.rest.map fun further => further.1.opening ++ further.2)

/-- The kinds of the unions in a chain. -/
def kinds (chain : UnionChain) : List UnionKind :=
  chain.rest.map Prod.fst

end UnionChain

variable {R : Type} [DecidableEq R]

/-- The rows of a union. -/
def UnionKind.unite : UnionKind → Multiset R → Multiset R → Multiset R
  | .all, rows, more => rows + more
  | .plain, rows, more | .distinct, rows, more => (rows + more).dedup

namespace UnionChain

/-- The rows of the SELECTs from a given number on. -/
def later (n : ℕ) (rows : ℕ → Multiset R) : ℕ → Multiset R :=
  fun i => rows (n + i)

/-- Rows united with those of further SELECTs, one after another. -/
def gather : (ℕ → Multiset R) → Multiset R → List UnionKind → Multiset R
  | _, known, [] => known
  | rows, known, kind :: kinds => gather (later 1 rows) (kind.unite known (rows 0)) kinds

/-- The rows of a chain whose SELECTs have given rows, read from the left. -/
def rows (chain : UnionChain) (rows : ℕ → Multiset R) : Multiset R :=
  gather (later 1 rows) (rows 0) chain.kinds

end UnionChain

/-! ## Trees -/

/-- A statement with its unions, down to SELECTs without unions. -/
inductive UnionTree where
  /-- A SELECT. -/
  | select (text : String)
  /-- A statement with one more union. -/
  | union (tree : UnionTree) (kind : UnionKind) (branch : UnionTree)
  deriving DecidableEq

namespace UnionTree

open UnionChain (later gather)

/-- The chain that a tree is spliced into. -/
def chain : UnionTree → UnionChain
  | select text => ⟨text, []⟩
  | union tree kind branch =>
    ⟨tree.chain.first, tree.chain.rest ++ (kind, branch.chain.first) :: branch.chain.rest⟩

/-- The kinds of all unions in a tree, as they come in its chain. -/
def kinds (tree : UnionTree) : List UnionKind :=
  tree.chain.kinds

/-- The number of SELECTs in a tree. -/
def size (tree : UnionTree) : ℕ :=
  1 + tree.kinds.length

/-- The rows of a statement: those of its SELECT united with what each branch contributes, in the
order of the branches. -/
def rowsBy (contributes : UnionTree → (ℕ → Multiset R) → Multiset R) :
    UnionTree → (ℕ → Multiset R) → Multiset R
  | select _, rows => rows 0
  | union tree kind branch, rows =>
    kind.unite (tree.rowsBy contributes rows) (contributes branch (later tree.size rows))

/-- The rows of a statement when each branch contributes the rows of its own chain. -/
def rowsOfChains : UnionTree → (ℕ → Multiset R) → Multiset R :=
  rowsBy fun branch => branch.chain.rows

/-- The rows of a statement when each branch contributes its rows in the same sense. -/
def rowsOfTrees : UnionTree → (ℕ → Multiset R) → Multiset R
  | select _, rows => rows 0
  | union tree kind branch, rows =>
    kind.unite (tree.rowsOfTrees rows) (branch.rowsOfTrees (later tree.size rows))

/-- The condition under which a chain has the rows of its tree. The last unions of the statement
that are of the kind ALL have no branch with a union of another kind, and the branch of the union
before them, which removes repetitions, does not end in a union of the kind ALL. -/
def Keeps : UnionTree → Prop
  | select _ => True
  | union tree .all branch => (∀ kind ∈ branch.kinds, kind = .all) ∧ tree.Keeps
  | union _ _ branch => branch.kinds.getLast? ≠ some .all

/-- A look at each union decides whether a tree keeps its rows. -/
instance decidableKeeps : (tree : UnionTree) → Decidable tree.Keeps
  | select _ => .isTrue trivial
  | union tree .all branch =>
    have := decidableKeeps tree
    inferInstanceAs (Decidable ((∀ kind ∈ branch.kinds, kind = .all) ∧ tree.Keeps))
  | union _ .plain branch => inferInstanceAs (Decidable (branch.kinds.getLast? ≠ some .all))
  | union _ .distinct branch => inferInstanceAs (Decidable (branch.kinds.getLast? ≠ some .all))

end UnionTree

/-! ## Reading from the left -/

namespace UnionKind

variable {kind : UnionKind} {known more : Multiset R} {r : R}

/-- A row is in a union if it is in one of its parts. -/
theorem mem_unite : r ∈ kind.unite known more ↔ r ∈ known ∨ r ∈ more := by
  cases kind <;> simp [unite]

/-- Only UNION ALL has duplicates. -/
theorem nodup_unite (h : kind ≠ .all) : (kind.unite known more).Nodup := by
  cases kind with
  | all => exact absurd rfl h
  | plain => exact Multiset.nodup_dedup _
  | distinct => exact Multiset.nodup_dedup _

/-- A union with no rows removes at most repetitions. -/
theorem nodup_unite_zero (h : known.Nodup) : (kind.unite known 0).Nodup := by
  cases kind with
  | all =>
    rw [unite, add_zero]
    exact h
  | plain => exact Multiset.nodup_dedup _
  | distinct => exact Multiset.nodup_dedup _

end UnionKind

namespace UnionChain

variable {rows : ℕ → Multiset R} {known : Multiset R} {kinds : List UnionKind} {r : R}

omit [DecidableEq R] in
/-- The rows from one number on, counted from another one. -/
theorem later_later (m n : ℕ) (rows : ℕ → Multiset R) :
    later m (later n rows) = later (n + m) rows :=
  funext fun i => congrArg rows (Nat.add_assoc n m i).symm

/-- Rows are gathered one union after another. -/
theorem gather_append (rows : ℕ → Multiset R) (known : Multiset R) (kinds more : List UnionKind) :
    gather rows known (kinds ++ more) =
      gather (later kinds.length rows) (gather rows known kinds) more := by
  induction kinds generalizing rows known with
  | nil =>
    have same : later 0 rows = rows := funext fun i => congrArg rows (Nat.zero_add i)
    rw [List.nil_append, List.length_nil, same]
    rfl
  | cons kind kinds ih =>
    rw [List.cons_append, gather, ih, later_later, Nat.add_comm, List.length_cons]
    rfl

/-- Gathered rows are known ones or come from further SELECTs. -/
theorem mem_gather : r ∈ gather rows known kinds ↔ r ∈ known ∨ r ∈ gather rows 0 kinds := by
  induction kinds generalizing rows known with
  | nil => simp [gather]
  | cons kind kinds ih =>
    have further : r ∈ gather (later 1 rows) (kind.unite 0 (rows 0)) kinds ↔
        r ∈ kind.unite 0 (rows 0) ∨ r ∈ gather (later 1 rows) 0 kinds := ih
    rw [gather, gather, ih, further, UnionKind.mem_unite, UnionKind.mem_unite]
    simp [or_assoc]

/-- Unions of the kind ALL add to what is known. -/
theorem gather_of_all (h : ∀ kind ∈ kinds, kind = .all) (extra : Multiset R) :
    gather rows (extra + known) kinds = extra + gather rows known kinds := by
  induction kinds generalizing rows known with
  | nil => rfl
  | cons kind kinds ih =>
    obtain rfl := h kind List.mem_cons_self
    have rest kind (mem : kind ∈ kinds) := h kind (List.mem_cons_of_mem _ mem)
    rw [gather, gather, UnionKind.unite, UnionKind.unite, add_assoc, ih rest]

/-- After a last union that removes repetitions there are none. -/
theorem nodup_gather (h : known.Nodup) (last : kinds.getLast? ≠ some .all) :
    (gather rows known kinds).Nodup := by
  rcases List.eq_nil_or_concat kinds with rfl | ⟨init, kind, rfl⟩
  · exact h
  · rw [List.concat_eq_append] at last ⊢
    rw [List.getLast?_append, List.getLast?_singleton, Option.some_or] at last
    rw [gather_append]
    exact UnionKind.nodup_unite fun all => last (congrArg some all)

/-- SELECTs without rows add no repetitions. -/
theorem nodup_gather_of_empty (empty : ∀ i, rows i = 0) (h : known.Nodup) :
    (gather rows known kinds).Nodup := by
  induction kinds generalizing rows known with
  | nil => exact h
  | cons kind kinds ih =>
    rw [gather, empty 0]
    exact ih (fun i => empty _) (UnionKind.nodup_unite_zero h)

/-- SELECTs without rows and some union that removes repetitions leave none. -/
theorem nodup_gather_of_mem (empty : ∀ i, rows i = 0) {kind : UnionKind} (mem : kind ∈ kinds)
    (ne : kind ≠ .all) : (gather rows known kinds).Nodup := by
  induction kinds generalizing rows known with
  | nil => cases mem
  | cons first kinds ih =>
    rw [gather]
    rcases List.mem_cons.1 mem with rfl | later
    · exact nodup_gather_of_empty (fun i => empty _) (UnionKind.nodup_unite ne)
    · exact ih (fun i => empty _) later

end UnionChain

/-! ## Chains of trees -/

namespace UnionTree

open UnionChain (later gather)

variable {tree branch : UnionTree} {kind : UnionKind} {rows : ℕ → Multiset R} {r : R}

/-- The unions of a tree come in its chain in the order in which they are written. -/
theorem kinds_union (tree : UnionTree) (kind : UnionKind) (branch : UnionTree) :
    (union tree kind branch).kinds = tree.kinds ++ kind :: branch.kinds := by
  rw [kinds, UnionChain.kinds, chain, List.map_append, List.map_cons]
  rfl

/-- The chain of a statement with one more union goes on after the chain of the statement. -/
theorem rows_chain_union (tree : UnionTree) (kind : UnionKind) (branch : UnionTree)
    (rows : ℕ → Multiset R) :
    (union tree kind branch).chain.rows rows =
      gather (later 1 (later tree.size rows))
        (kind.unite (tree.chain.rows rows) (later tree.size rows 0)) branch.kinds := by
  have split : (union tree kind branch).chain.kinds = tree.kinds ++ kind :: branch.kinds :=
    kinds_union tree kind branch
  rw [UnionChain.rows, split, UnionChain.gather_append, UnionChain.later_later]
  rfl

/-- A row is in the chain of a union if it is in the chain of one of its parts. -/
theorem mem_rows_chain_union :
    r ∈ (union tree kind branch).chain.rows rows ↔
      r ∈ tree.chain.rows rows ∨ r ∈ branch.chain.rows (later tree.size rows) := by
  have own : r ∈ branch.chain.rows (later tree.size rows) ↔ r ∈ later tree.size rows 0 ∨
      r ∈ gather (later 1 (later tree.size rows)) 0 branch.kinds :=
    UnionChain.mem_gather
  rw [rows_chain_union, UnionChain.mem_gather, UnionKind.mem_unite, own, or_assoc]

/-- A union of the kind ALL adds the rows of its branch if the branch has no others. -/
theorem rows_chain_union_all (h : ∀ kind ∈ branch.kinds, kind = .all) :
    (union tree .all branch).chain.rows rows =
      tree.chain.rows rows + branch.chain.rows (later tree.size rows) := by
  rw [rows_chain_union, UnionKind.unite, UnionChain.gather_of_all h]
  rfl

/-! ## What a branch contributes -/

/-- What a branch contributes are the rows of its chain, up to repetitions, and the same rows if all
its unions are of the kind ALL. -/
structure Contributes (contributes : UnionTree → (ℕ → Multiset R) → Multiset R) : Prop where
  /-- The rows are those of its chain. -/
  mem_iff : ∀ branch rows r, r ∈ contributes branch rows ↔ r ∈ branch.chain.rows rows
  /-- They come as often if all unions are of the kind ALL. -/
  of_all : ∀ branch rows, (∀ kind ∈ branch.kinds, kind = .all) →
    contributes branch rows = branch.chain.rows rows

/-- The rows of its chain are a contribution of a branch. -/
theorem contributes_chain : Contributes (R := R) fun branch => branch.chain.rows :=
  ⟨fun _ _ _ => Iff.rfl, fun _ _ _ => rfl⟩

/-- The rows of its tree are a contribution of a branch. -/
theorem contributes_rowsOfTrees : Contributes (R := R) rowsOfTrees := by
  constructor
  · intro branch rows r
    induction branch generalizing rows with
    | select text => exact Iff.rfl
    | union tree kind branch ihTree ihBranch =>
      rw [rowsOfTrees, UnionKind.mem_unite, mem_rows_chain_union, ihTree, ihBranch]
  · intro branch rows all
    induction branch generalizing rows with
    | select text => rfl
    | union tree kind branch ihTree ihBranch =>
      rw [kinds_union] at all
      have early kind (mem : kind ∈ tree.kinds) := all kind (List.mem_append_left _ mem)
      have late kind (mem : kind ∈ branch.kinds) :=
        all kind (List.mem_append_right _ (List.mem_cons_of_mem _ mem))
      obtain rfl := all kind (List.mem_append_right _ List.mem_cons_self)
      rw [rowsOfTrees, ihTree _ early, ihBranch _ late, rows_chain_union_all late]
      rfl

/-- The rows of a tree, as those that its branches contribute by the rule of trees. -/
theorem rowsOfTrees_eq (tree : UnionTree) (rows : ℕ → Multiset R) :
    tree.rowsOfTrees rows = tree.rowsBy rowsOfTrees rows := by
  induction tree with
  | select text => rfl
  | union tree kind branch ihTree _ => rw [rowsOfTrees, rowsBy, ihTree]

variable {contributes : UnionTree → (ℕ → Multiset R) → Multiset R}

/-- A chain and its tree have the same rows up to repetitions. -/
theorem Contributes.mem_rowsBy (h : Contributes contributes) :
    r ∈ tree.rowsBy contributes rows ↔ r ∈ tree.chain.rows rows := by
  induction tree with
  | select text => exact Iff.rfl
  | union tree kind branch ihTree _ =>
    rw [rowsBy, UnionKind.mem_unite, mem_rows_chain_union, ihTree, h.mem_iff]

/-! ## When a chain has the rows of its tree -/

/-- A union that removes repetitions leaves a chain without any if its branch does not end in one
that adds some. -/
theorem nodup_rows_chain (ne : kind ≠ .all) (last : branch.kinds.getLast? ≠ some .all) :
    ((union tree kind branch).chain.rows rows).Nodup := by
  rw [rows_chain_union]
  exact UnionChain.nodup_gather (UnionKind.nodup_unite ne) last

/-- Under the condition a chain has the rows of its tree. -/
theorem Contributes.rows_chain_of_keeps (h : Contributes contributes) (keeps : tree.Keeps) :
    tree.chain.rows rows = tree.rowsBy contributes rows := by
  induction tree with
  | select text => rfl
  | union tree kind branch ihTree _ =>
    by_cases all : kind = .all
    · subst all
      obtain ⟨same, earlier⟩ := keeps
      rw [rows_chain_union_all same, rowsBy, UnionKind.unite, ihTree earlier, h.of_all _ _ same]
    · have last : branch.kinds.getLast? ≠ some .all := by
        cases kind <;> first | exact keeps | exact absurd rfl all
      -- Without repetitions it is enough that the rows are the same.
      refine (Multiset.Nodup.ext (nodup_rows_chain all last) (UnionKind.nodup_unite all)).2 ?_
      exact fun r => h.mem_rowsBy.symm

/-- A row in both of two multisets is twice in their sum. -/
theorem two_le_count_add {known more : Multiset R} (left : r ∈ known) (right : r ∈ more) :
    2 ≤ (known + more).count r := by
  have first := Multiset.one_le_count_iff_mem.2 left
  have second := Multiset.one_le_count_iff_mem.2 right
  rw [Multiset.count_add]
  omega

/-- A branch with a union that removes repetitions, added by a union of the kind ALL: the chain
removes them from the whole statement. One row in the first SELECT and in that of the branch tells
the two apart. -/
theorem Contributes.rows_chain_ne_of_mixed (h : Contributes contributes) (r : R)
    (mem : kind ∈ branch.kinds) (ne : kind ≠ .all) :
    ∃ rows, (union tree .all branch).chain.rows rows ≠
      (union tree .all branch).rowsBy contributes rows := by
  let rows : ℕ → Multiset R := fun i => if i = 0 ∨ i = tree.size then {r} else 0
  refine ⟨rows, fun same => ?_⟩
  have empty i : later 1 (later tree.size rows) i = 0 := by
    have beyond : ¬(tree.size + (1 + i) = 0 ∨ tree.size + (1 + i) = tree.size) := by omega
    exact if_neg beyond
  have once : ((union tree .all branch).chain.rows rows).Nodup := by
    rw [rows_chain_union]
    exact UnionChain.nodup_gather_of_mem empty mem ne
  have own : r ∈ tree.rowsBy contributes rows := by
    have first : r ∈ rows 0 := by simp [rows]
    exact h.mem_rowsBy.2 (UnionChain.mem_gather.2 (.inl first))
  have branchs : r ∈ contributes branch (later tree.size rows) := by
    have first : r ∈ later tree.size rows 0 := by simp [rows, later]
    exact (h.mem_iff _ _ _).2 (UnionChain.mem_gather.2 (.inl first))
  have twice := two_le_count_add own branchs
  have atMost := Multiset.nodup_iff_count_le_one.1 once r
  rw [same, rowsBy, UnionKind.unite] at atMost
  omega

/-- A branch that ends in a union of the kind ALL, added by a union that removes repetitions: the
chain does not remove those of the last SELECT. -/
theorem rows_chain_ne_of_ends (contributes : UnionTree → (ℕ → Multiset R) → Multiset R) (r : R)
    (ne : kind ≠ .all) (ends : branch.kinds.getLast? = some .all) :
    ∃ rows, (union tree kind branch).chain.rows rows ≠
      (union tree kind branch).rowsBy contributes rows := by
  obtain ⟨init, split⟩ := List.getLast?_eq_some_iff.1 ends
  let rows : ℕ → Multiset R := fun i => if i = tree.size + 1 + init.length then {r, r} else 0
  refine ⟨rows, fun same => ?_⟩
  have once : ((union tree kind branch).rowsBy contributes rows).Nodup := UnionKind.nodup_unite ne
  have last : later init.length (later 1 (later tree.size rows)) 0 = {r, r} := by
    have place : tree.size + (1 + (init.length + 0)) = tree.size + 1 + init.length := by omega
    exact if_pos place
  have atMost := Multiset.nodup_iff_count_le_one.1 once r
  rw [← same, rows_chain_union, split, UnionChain.gather_append, gather, gather, last,
    UnionKind.unite, Multiset.count_add] at atMost
  have twice : ({r, r} : Multiset R).count r = 2 := by simp
  omega

/-- If a chain always has the rows of its tree, the condition holds. -/
theorem Contributes.keeps_of_rows_chain (h : Contributes contributes) (r : R)
    (same : ∀ rows, tree.chain.rows rows = tree.rowsBy contributes rows) : tree.Keeps := by
  induction tree with
  | select text => trivial
  | union tree kind branch ihTree _ =>
    by_cases all : kind = .all
    · subst all
      have inner kind (mem : kind ∈ branch.kinds) : kind = .all := by
        by_contra ne
        obtain ⟨rows, differ⟩ := h.rows_chain_ne_of_mixed r mem ne
        exact differ (same rows)
      refine ⟨inner, ihTree fun rows => ?_⟩
      have equal := same rows
      rw [rows_chain_union_all inner, rowsBy, UnionKind.unite, h.of_all _ _ inner] at equal
      exact add_right_cancel equal
    · have last : branch.kinds.getLast? ≠ some .all := by
        intro ends
        obtain ⟨rows, differ⟩ := rows_chain_ne_of_ends contributes r all ends
        exact differ (same rows)
      cases kind <;> first | exact last | exact absurd rfl all

/-- A chain has the rows of its tree, whatever those of the SELECTs are, exactly under the
condition; it makes no difference whether a branch contributes the rows of its own chain or those
of its own tree. -/
theorem rows_chain_eq_iff (r : R) (tree : UnionTree) :
    ((∀ rows : ℕ → Multiset R, tree.chain.rows rows = tree.rowsOfChains rows) ↔ tree.Keeps) ∧
      ((∀ rows : ℕ → Multiset R, tree.chain.rows rows = tree.rowsOfTrees rows) ↔ tree.Keeps) := by
  constructor
  · exact ⟨contributes_chain.keeps_of_rows_chain r,
      fun keeps rows => contributes_chain.rows_chain_of_keeps keeps⟩
  · simp only [rowsOfTrees_eq]
    exact ⟨contributes_rowsOfTrees.keeps_of_rows_chain r,
      fun keeps rows => contributes_rowsOfTrees.rows_chain_of_keeps keeps⟩

end UnionTree

end SqlBuilder
