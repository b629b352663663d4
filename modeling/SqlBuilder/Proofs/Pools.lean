import SqlBuilder.Proofs.Pulls
import SqlBuilder.Proofs.Sessions

/-!
# Pools of statements and iterators

A pool holds statements that share one session, and the iterators that were made from them. Actions
on statements and iterators come in any order. `Pool.Coherent` is the invariant of a pool: all its
iterators live, on prepared statements of their own. Each kind of action keeps it, since a call of a
method uses new prepared statements only (`Session.Passed`), and so do any actions in any order
(`Coherent.run`). An action leaves all iterators alone but the one that it is on (`Coherent.apart`).
-/

set_option autoImplicit false

namespace SqlBuilder

open Session (usesOf_other)
open Sql (Compiled)

variable {d : Driver}

/-! ## Pools -/

/-- Statements that share a session, and the iterators made from them. -/
structure Pool (d : Driver) where
  /-- The session. -/
  session : Session d.traced
  /-- The options and states of the statements, by number. -/
  statements : List (Options × State) := []
  /-- The iterators, by number. -/
  iterators : List (LazyRows d) := []

/-- Something to do in a pool. -/
inductive Action where
  /-- A new statement. -/
  | create (options : Options)
  /-- A call of a method of a statement. -/
  | call (index : Nat) (call : Call)
  /-- A new iterator over the rows of a statement. -/
  | morph (index : Nat) (transform : Transform) (spread : Bool)
  /-- The next value of an iterator. -/
  | next (index : Nat)
  /-- All remaining values of an iterator. -/
  | rest (index : Nat)
  /-- Closes an iterator. -/
  | stop (index : Nat)

/-- The iterator that an action is on, if it is on one. -/
def Action.iterator? : Action → Option Nat
  | .create _ | .call _ _ | .morph _ _ _ => none
  | .next index | .rest index | .stop index => some index

namespace Pool

/-- The pool of a fresh connection. -/
def opened (connection : d.Connection) : Pool d :=
  { session := { connection := (connection, 0) } }

/-- A statement of a pool, on the session of the pool. -/
def statement? (pool : Pool d) (index : Nat) : Option (Statement d.traced) :=
  pool.statements[index]?.map fun (options, state) =>
    { options := options, state := state, session := some pool.session }

/-- A pool in which something is done with an iterator. -/
def withIterator (pool : Pool d) (index : Nat)
    (act : LazyRows d → Session d.traced → LazyRows d × Session d.traced) : Pool d :=
  match pool.iterators[index]? with
  | none => pool
  | some l =>
    let (l, session) := act l pool.session
    { pool with session := session, iterators := pool.iterators.set index l }

/-- A pool in which a method of a statement is called. -/
def called (pool : Pool d) (index : Nat) (call : Call) : Pool d :=
  match pool.statement? index with
  | none => pool
  | some st =>
    let st := (call.run st).2
    { pool with
      session := st.session.getD pool.session
      statements := pool.statements.set index (st.options, st.state) }

/-- A pool with a new iterator over the rows of a statement, if it compiles. -/
def morphed (pool : Pool d) (index : Nat) (transform : Transform) (spread : Bool) : Pool d :=
  match pool.statement? index with
  | none => pool
  | some st =>
    match st.state.compile, st.morph transform spread with
    | .ok compiled, .ok iterator =>
      let l : LazyRows d :=
        { compiled := compiled
          transform := transform
          spread := spread
          logs := st.options.logStatements
          iterator := iterator }
      { pool with iterators := pool.iterators ++ [l] }
    | _, _ => pool

/-- A pool after an action. What fails changes nothing but what the failing call changed. -/
def step (pool : Pool d) : Action → Pool d
  | .create options => { pool with statements := pool.statements ++ [(options, {})] }
  | .call index call => pool.called index call
  | .morph index transform spread => pool.morphed index transform spread
  | .next index => pool.withIterator index LazyRows.next
  | .rest index => pool.withIterator index LazyRows.rest
  | .stop index => pool.withIterator index LazyRows.stop

/-- A pool after actions one after another. -/
def run (pool : Pool d) (actions : List Action) : Pool d :=
  actions.foldl step pool

end Pool

/-! ## Coherent pools -/

/-- What is done with new statements only does not use an old one. -/
theorem Session.Passed.usesOf {s s' : Session d.traced} (h : s.Passed s') {number : Nat}
    (old : number < s.count) : s'.usesOf number = s.usesOf number := by
  obtain ⟨made, uses, new⟩ := h.uses
  refine usesOf_other uses fun used hu => ?_
  have above := (new used hu).1
  omega

variable {rowsOf : d.RowSource} {pool : Pool d}

namespace Pool

/-- What stands at a place of a list in which an item was replaced: the new item, or what stood
there before. -/
theorem eq_or_getElem?_of_set {α : Type} {xs : List α} {index place : Nat} {new found : α}
    (h : (xs.set index new)[place]? = some found) :
    index = place ∧ found = new ∨ index ≠ place ∧ xs[place]? = some found := by
  by_cases same : index = place
  · subst same
    have bound : index < xs.length := by
      simpa using (List.getElem?_eq_some_iff.1 h).1
    rw [List.getElem?_set_self bound] at h
    exact .inl ⟨rfl, (Option.some.inj h).symm⟩
  · rw [List.getElem?_set_ne same] at h
    exact .inr ⟨same, h⟩

/-- What holds of a pool at any time. -/
structure Coherent (rowsOf : d.RowSource) (pool : Pool d) : Prop where
  /-- All statements in use are numbered. -/
  known : ∀ used ∈ pool.session.uses, used.1 < pool.session.count
  /-- Every iterator lives. -/
  life : ∀ l ∈ pool.iterators, l.Life rowsOf pool.session
  /-- The statements of iterators are numbered. -/
  numbered : ∀ l ∈ pool.iterators, ∀ number, l.number = some number →
    number < pool.session.count
  /-- Iterators have different statements. -/
  distinct : ∀ (i j : Nat) (l k : LazyRows d) (number : Nat), pool.iterators[i]? = some l →
    pool.iterators[j]? = some k → l.number = some number → k.number = some number → i = j

/-- A pool of a fresh connection is coherent. -/
theorem coherent_opened (connection : d.Connection) : (opened connection).Coherent rowsOf :=
  ⟨fun _ h => (by cases h), fun _ h => (by cases h), fun _ h => (by cases h),
    fun _ _ _ _ _ h => (by cases h)⟩

/-- Statements that come and go change nothing for the iterators if only new prepared statements
are used. -/
theorem Coherent.passed (coherent : pool.Coherent rowsOf) {session : Session d.traced}
    (h : pool.session.Passed session) (statements : List (Options × State)) :
    ({ pool with session := session, statements := statements } : Pool d).Coherent rowsOf := by
  obtain ⟨made, uses, new⟩ := h.uses
  refine ⟨?_, ?_, ?_, coherent.distinct⟩
  · intro used hu
    rw [uses] at hu
    rcases List.mem_append.1 hu with old | late
    · exact Nat.lt_of_lt_of_le (coherent.known used old) h.count
    · exact (new used late).2
  · intro l hl
    refine (coherent.life l hl).congr fun number known => ?_
    exact h.usesOf (coherent.numbered l hl number known)
  · intro l hl number known
    exact Nat.lt_of_lt_of_le (coherent.numbered l hl number known) h.count

/-- A new iterator. -/
theorem Coherent.added (coherent : pool.Coherent rowsOf) {l : LazyRows d}
    (life : l.Life rowsOf pool.session) (unused : l.number = none) :
    ({ pool with iterators := pool.iterators ++ [l] } : Pool d).Coherent rowsOf := by
  refine ⟨coherent.known, ?_, ?_, ?_⟩
  · intro k hk
    rcases List.mem_append.1 hk with old | new
    · exact coherent.life k old
    · exact List.mem_singleton.1 new ▸ life
  · intro k hk number known
    rcases List.mem_append.1 hk with old | new
    · exact coherent.numbered k old number known
    · rw [List.mem_singleton.1 new, unused] at known
      cases known
  · intro i j k k' number hk hk' known known'
    have old {i : Nat} {k : LazyRows d} (hk : (pool.iterators ++ [l])[i]? = some k)
        (known : k.number = some number) : pool.iterators[i]? = some k := by
      rw [List.getElem?_append] at hk
      split at hk
      · exact hk
      · have new := List.mem_of_getElem? hk
        rw [List.mem_singleton.1 new, unused] at known
        cases known
    exact coherent.distinct i j k k' number (old hk known) (old hk' known') known known'

/-- An action on an iterator is on its own statement: no other iterator has that. -/
theorem Coherent.own_of_stepped (coherent : pool.Coherent rowsOf) {index : Nat} {l : LazyRows d}
    (here : pool.iterators[index]? = some l) {result : LazyRows d × Session d.traced}
    (h : LazyRows.Stepped rowsOf l pool.session result) {other : Nat} {k : LazyRows d}
    {number : Nat} (there : pool.iterators[other]? = some k) (known : k.number = some number)
    (used : result.1.number = some number) : index = other := by
  rcases h.number number used with old | ⟨rfl, -⟩
  · exact coherent.distinct index other l k number here there old known
  · have old := coherent.numbered k (List.mem_of_getElem? there) _ known
    exact absurd old (Nat.lt_irrefl _)

/-- An action on an iterator does not use the statements of the others. -/
theorem Coherent.usesOf_of_stepped (coherent : pool.Coherent rowsOf) {index : Nat}
    {l : LazyRows d} (here : pool.iterators[index]? = some l)
    {result : LazyRows d × Session d.traced}
    (h : LazyRows.Stepped rowsOf l pool.session result) {other : Nat} (apart : index ≠ other)
    {k : LazyRows d} {number : Nat} (there : pool.iterators[other]? = some k)
    (known : k.number = some number) :
    result.2.usesOf number = pool.session.usesOf number := by
  obtain ⟨made, uses, own⟩ := h.uses
  refine usesOf_other uses fun used hu same => apart ?_
  exact coherent.own_of_stepped here h there known (same ▸ own used hu)

/-- An action on an iterator. -/
theorem Coherent.stepped (coherent : pool.Coherent rowsOf) {index : Nat} {l : LazyRows d}
    (here : pool.iterators[index]? = some l) {l' : LazyRows d} {session : Session d.traced}
    (h : LazyRows.Stepped rowsOf l pool.session (l', session)) :
    ({ pool with session := session, iterators := pool.iterators.set index l' } :
      Pool d).Coherent rowsOf := by
  have mine := List.mem_of_getElem? here
  have below (n : Nat) (used : l'.number = some n) : n < session.count := by
    rcases h.number n used with old | ⟨-, new⟩
    · exact Nat.lt_of_lt_of_le (coherent.numbered l mine n old) h.grows
    · exact new
  refine ⟨?_, ?_, ?_, ?_⟩
  · obtain ⟨made, uses, own⟩ := h.uses
    intro used hu
    rw [uses] at hu
    rcases List.mem_append.1 hu with old | new
    · exact Nat.lt_of_lt_of_le (coherent.known used old) h.grows
    · exact below used.1 (own used new)
  · intro k hk
    obtain ⟨j, hj⟩ := List.mem_iff_getElem?.1 hk
    rcases eq_or_getElem?_of_set hj with ⟨-, rfl⟩ | ⟨other, there⟩
    · exact h.life
    · refine (coherent.life k (List.mem_of_getElem? there)).congr fun n known => ?_
      exact coherent.usesOf_of_stepped here h other there known
  · intro k hk n known
    obtain ⟨j, hj⟩ := List.mem_iff_getElem?.1 hk
    rcases eq_or_getElem?_of_set hj with ⟨-, rfl⟩ | ⟨-, hj⟩
    · exact below n known
    · exact Nat.lt_of_lt_of_le (coherent.numbered k (List.mem_of_getElem? hj) n known) h.grows
  -- Its statement is the one it has had, which no other iterator has, or bears the next number,
  -- which none has yet.
  · intro i j k k' n hk hk' known known'
    rcases eq_or_getElem?_of_set hk with ⟨rfl, rfl⟩ | ⟨-, there⟩
    · rcases eq_or_getElem?_of_set hk' with ⟨rfl, rfl⟩ | ⟨-, there'⟩
      · rfl
      · exact coherent.own_of_stepped here h there' known' known
    · rcases eq_or_getElem?_of_set hk' with ⟨rfl, rfl⟩ | ⟨-, there'⟩
      · exact (coherent.own_of_stepped here h there known known').symm
      · exact coherent.distinct i j k k' n there there' known known'

/-- Only new prepared statements are used by a call. -/
theorem chained_passed (rowsOf : d.RowSource) : Session.Chained (Session.Passed (d := d)) where
  refl := Session.Passed.refl
  trans := Session.Passed.trans
  fetchAll := Session.passed_fetchAll rowsOf
  insert := Session.passed_insert rowsOf
  affect := Session.passed_affect rowsOf

/-- A statement of a pool is on its session. -/
theorem session_of_statement? {index : Nat} {st : Statement d.traced}
    (found : pool.statement? index = some st) : st.session = some pool.session := by
  obtain ⟨_, -, rfl⟩ := Option.map_eq_some_iff.1 found
  rfl

/-- A call keeps a pool coherent. -/
theorem Coherent.called (coherent : pool.Coherent rowsOf) (index : Nat) (call : Call) :
    (pool.called index call).Coherent rowsOf := by
  unfold Pool.called
  split
  · exact coherent
  · rename_i st found
    obtain ⟨session, after, passed⟩ :=
      call.leads_run (chained_passed rowsOf) st pool.session (session_of_statement? found)
    simp only [after]
    exact coherent.passed passed _

/-- A new iterator keeps a pool coherent. -/
theorem Coherent.morphed (coherent : pool.Coherent rowsOf) (index : Nat) (transform : Transform)
    (spread : Bool) : (pool.morphed index transform spread).Coherent rowsOf := by
  unfold Pool.morphed
  split
  · exact coherent
  · rename_i st found
    split
    · rename_i compiled iterator compiles made
      have pending : RowIterator.pending compiled transform spread = iterator := by
        simpa only [Statement.morph, compiles, session_of_statement? found, Except.ok.injEq] using
          made
      exact coherent.added (.fresh pending.symm rfl rfl) rfl
    · exact coherent

/-- What an action does on an iterator of a coherent pool. -/
theorem Coherent.acts (coherent : pool.Coherent rowsOf) {index : Nat} {l : LazyRows d}
    (here : pool.iterators[index]? = some l) :
    LazyRows.Stepped rowsOf l pool.session (l.next pool.session) ∧
      LazyRows.Stepped rowsOf l pool.session (l.rest pool.session) ∧
      LazyRows.Stepped rowsOf l pool.session (l.stop pool.session) := by
  have life := coherent.life l (List.mem_of_getElem? here)
  exact ⟨life.next coherent.known, life.rest coherent.known, life.stop⟩

/-- An action on an iterator keeps a pool coherent. -/
theorem Coherent.withIterator (coherent : pool.Coherent rowsOf) (index : Nat)
    {act : LazyRows d → Session d.traced → LazyRows d × Session d.traced}
    (steps : ∀ {l}, pool.iterators[index]? = some l →
      LazyRows.Stepped rowsOf l pool.session (act l pool.session)) :
    (pool.withIterator index act).Coherent rowsOf := by
  unfold Pool.withIterator
  split
  · exact coherent
  · rename_i l here
    exact coherent.stepped here (steps here)

/-- Every action keeps a pool coherent. -/
theorem Coherent.step (coherent : pool.Coherent rowsOf) (action : Action) :
    (pool.step action).Coherent rowsOf := by
  cases action with
  | create options => exact coherent.passed (Session.Passed.refl _) _
  | call index call => exact coherent.called index call
  | morph index transform spread => exact coherent.morphed index transform spread
  | next index => exact coherent.withIterator index fun here => (coherent.acts here).1
  | rest index => exact coherent.withIterator index fun here => (coherent.acts here).2.1
  | stop index => exact coherent.withIterator index fun here => (coherent.acts here).2.2

/-- Any actions in any order keep a pool coherent. -/
theorem Coherent.run (coherent : pool.Coherent rowsOf) (actions : List Action) :
    (pool.run actions).Coherent rowsOf := by
  induction actions generalizing pool with
  | nil => exact coherent
  | cons action rest ih => exact ih (coherent.step action)

/-! ## Actions on other iterators -/

/-- An action leaves an iterator and its prepared statement alone. -/
def LeavesAlone (pool pool' : Pool d) (index : Nat) (l : LazyRows d) : Prop :=
  pool'.iterators[index]? = some l ∧
    ∀ number, l.number = some number →
      pool'.session.usesOf number = pool.session.usesOf number

/-- Calls leave all iterators alone. -/
theorem Coherent.leavesAlone_called (coherent : pool.Coherent rowsOf) (index : Nat) (call : Call)
    {other : Nat} {l : LazyRows d} (here : pool.iterators[other]? = some l) :
    pool.LeavesAlone (pool.called index call) other l := by
  unfold Pool.called
  split
  · exact ⟨here, fun _ _ => rfl⟩
  · rename_i st found
    obtain ⟨session, after, passed⟩ :=
      call.leads_run (chained_passed rowsOf) st pool.session (session_of_statement? found)
    simp only [after]
    refine ⟨here, fun number known => ?_⟩
    exact passed.usesOf (coherent.numbered l (List.mem_of_getElem? here) number known)

/-- Making an iterator leaves all others alone. -/
theorem leavesAlone_morphed (index : Nat) (transform : Transform) (spread : Bool) {other : Nat}
    {l : LazyRows d} (here : pool.iterators[other]? = some l) :
    pool.LeavesAlone (pool.morphed index transform spread) other l := by
  unfold Pool.morphed
  split
  · exact ⟨here, fun _ _ => rfl⟩
  · split
    · have bound := (List.getElem?_eq_some_iff.1 here).1
      exact ⟨(List.getElem?_append_left bound).trans here, fun _ _ => rfl⟩
    · exact ⟨here, fun _ _ => rfl⟩

/-- An action on an iterator leaves the others alone. -/
theorem Coherent.leavesAlone_withIterator (coherent : pool.Coherent rowsOf) {index other : Nat}
    {act : LazyRows d → Session d.traced → LazyRows d × Session d.traced}
    (steps : ∀ {l}, pool.iterators[index]? = some l →
      LazyRows.Stepped rowsOf l pool.session (act l pool.session)) (apart : index ≠ other)
    {l : LazyRows d} (here : pool.iterators[other]? = some l) :
    pool.LeavesAlone (pool.withIterator index act) other l := by
  unfold Pool.withIterator
  split
  · exact ⟨here, fun _ _ => rfl⟩
  · rename_i k there
    refine ⟨(List.getElem?_set_ne apart).trans here, fun number known => ?_⟩
    exact coherent.usesOf_of_stepped there (steps there) apart here known

/-- An action leaves all iterators alone but the one that it is on. -/
theorem Coherent.apart (coherent : pool.Coherent rowsOf) {action : Action} {index : Nat}
    (other : action.iterator? ≠ some index) {l : LazyRows d}
    (here : pool.iterators[index]? = some l) : pool.LeavesAlone (pool.step action) index l := by
  have differs {k : Nat} (on : action.iterator? = some k) : k ≠ index :=
    fun same => other (on.trans (congrArg some same))
  cases action with
  | create options => exact ⟨here, fun _ _ => rfl⟩
  | call k call => exact coherent.leavesAlone_called k call here
  | morph k transform spread => exact leavesAlone_morphed k transform spread here
  | next k =>
    exact coherent.leavesAlone_withIterator (fun there => (coherent.acts there).1)
      (differs rfl) here
  | rest k =>
    exact coherent.leavesAlone_withIterator (fun there => (coherent.acts there).2.1) (differs rfl)
      here
  | stop k =>
    exact coherent.leavesAlone_withIterator (fun there => (coherent.acts there).2.2) (differs rfl)
      here

/-! ## What an iterator was made from -/

/-- Iterators that were made from the same. -/
structure SameOrigin (l l' : LazyRows d) : Prop where
  /-- What was compiled. -/
  compiled : l'.compiled = l.compiled
  /-- What is made of each row. -/
  transform : l'.transform = l.transform
  /-- How it is given the row. -/
  spread : l'.spread = l.spread

/-- An action on an iterator keeps what it was made from. -/
theorem origin_withIterator (index : Nat)
    {act : LazyRows d → Session d.traced → LazyRows d × Session d.traced}
    (keeps : ∀ l s, SameOrigin l (act l s).1) {i : Nat} {l : LazyRows d}
    (h : pool.iterators[i]? = some l) :
    ∃ l', (pool.withIterator index act).iterators[i]? = some l' ∧ SameOrigin l l' := by
  unfold withIterator
  split
  · exact ⟨l, h, rfl, rfl, rfl⟩
  · rename_i k here
    by_cases same : index = i
    · rw [same, h] at here
      have bound := (List.getElem?_eq_some_iff.1 h).1
      refine ⟨(act k pool.session).1, ?_, ?_⟩
      · rw [same]
        exact List.getElem?_set_self bound
      · rw [Option.some.inj here]
        exact keeps k pool.session
    · exact ⟨l, (List.getElem?_set_ne same).trans h, rfl, rfl, rfl⟩

/-- An action keeps what an iterator was made from. -/
theorem origin_step (action : Action) {i : Nat} {l : LazyRows d}
    (h : pool.iterators[i]? = some l) :
    ∃ l', (pool.step action).iterators[i]? = some l' ∧ SameOrigin l l' := by
  cases action with
  | create options => exact ⟨l, h, rfl, rfl, rfl⟩
  | call index call =>
    refine ⟨l, ?_, rfl, rfl, rfl⟩
    show (pool.called index call).iterators[i]? = some l
    unfold called
    split <;> exact h
  | morph index transform spread =>
    refine ⟨l, ?_, rfl, rfl, rfl⟩
    show (pool.morphed index transform spread).iterators[i]? = some l
    unfold morphed
    split
    · exact h
    · split
      · have bound := (List.getElem?_eq_some_iff.1 h).1
        exact (List.getElem?_append_left bound).trans h
      · exact h
  | next index => exact origin_withIterator index (fun l s => ⟨rfl, rfl, rfl⟩) h
  | rest index => exact origin_withIterator index (fun l s => ⟨rfl, rfl, rfl⟩) h
  | stop index => exact origin_withIterator index (fun l s => ⟨rfl, rfl, rfl⟩) h

/-- Actions keep what an iterator was made from. -/
theorem origin_run (actions : List Action) {i : Nat} {l : LazyRows d}
    (h : pool.iterators[i]? = some l) :
    ∃ l', (pool.run actions).iterators[i]? = some l' ∧ SameOrigin l l' := by
  induction actions generalizing pool l with
  | nil => exact ⟨l, h, rfl, rfl, rfl⟩
  | cons action rest ih =>
    obtain ⟨k, hk, first⟩ := origin_step action h
    obtain ⟨l', hl', later⟩ := ih hk
    exact ⟨l', hl', later.compiled.trans first.compiled, later.transform.trans first.transform,
      later.spread.trans first.spread⟩

/-- A new iterator is made from what its statement compiles to. -/
theorem iterators_morphed {index : Nat} {st : Statement d.traced} {compiled : Compiled}
    (found : pool.statement? index = some st) (compiles : st.state.compile = .ok compiled)
    (transform : Transform) (spread : Bool) :
    ∃ l, (pool.morphed index transform spread).iterators = pool.iterators ++ [l] ∧
      l.compiled = compiled ∧ l.transform = transform ∧ l.spread = spread := by
  have made : st.morph transform spread = .ok (.pending compiled transform spread) := by
    simp only [Statement.morph, compiles, session_of_statement? found]
  simp only [morphed, found, compiles, made]
  exact ⟨_, rfl, rfl, rfl, rfl⟩

/-- Making an iterator does not touch the session. -/
theorem session_morphed (index : Nat) (transform : Transform) (spread : Bool) :
    (pool.morphed index transform spread).session = pool.session := by
  unfold morphed
  split
  · rfl
  · split <;> rfl

end Pool

end SqlBuilder
