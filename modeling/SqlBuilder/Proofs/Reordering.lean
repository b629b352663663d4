import SqlBuilder.Driver.Recording
import SqlBuilder.Proofs.Locality

/-!
# The order of calls across clauses

A building call sees and changes its own part of the state only. So a run of building calls
consists of one run for each part, of the calls about it in their order, and it succeeds exactly
when these runs do. Programs that have the same calls about each part in the same order lead to the
same statement.
-/

set_option autoImplicit false

namespace SqlBuilder

variable {d : Driver}

/-! ## Building calls -/

/-- A call that builds: it is about a part, reaches no driver and, if it is a join, does not infer
its columns from the source. -/
structure Call.Building (call : Call) : Prop where
  /-- The call is about a part. -/
  part : call.part.isSome = true
  /-- The call and its callbacks reach no driver. -/
  offline : call.isOffline = true
  /-- Compared columns are given. -/
  given : ¬call.Infers

/-- A building call keeps agreement on the parts that it is not about. -/
theorem Call.Building.agree_of_ne {call : Call} (h : call.Building) {part : Part}
    (ne : call.part ≠ some part) {st st' : Statement d} (agree : st.Agree part st') :
    (call.run st).2.Agree part st' := by
  have kept := Call.keeps_run h.offline st
  have stays := (Call.moves (call.yields_anything st)).content_of_ne ne
  exact ⟨kept.options.trans agree.options, kept.session.trans agree.session,
    stays.trans agree.content⟩

/-! ## One run for each part -/

/-- The calls about a part. -/
def Call.about (part : Part) (calls : List Call) : List Call :=
  calls.filter fun call => call.part = some part

/-- The calls about a part, run on their own, lead from a statement that agrees with one on the part
to a statement that agrees with another. -/
def Call.Leads (part : Part) (calls : List Call) (st st' : Statement d) : Prop :=
  ∃ own own', st.Agree part own ∧ Call.runAll (Call.about part calls) own = (.ok (), own') ∧
    st'.Agree part own'

namespace Call

/-- Calls after one that succeeds go on from what it leaves. -/
theorem runAll_cons_of_ok {call : Call} {rest : List Call} {st : Statement d} {answer : Answer}
    (h : (call.run st).1 = .ok answer) :
    runAll (call :: rest) st = runAll rest (call.run st).2 := by
  rw [runAll]
  cases made : call.run st with
  | mk outcome st' =>
    rw [made] at h
    dsimp only at h
    subst h
    rfl

/-- In a run that succeeds the first call does, and the rest runs after it. -/
theorem of_runAll_cons {call : Call} {rest : List Call} {st st' : Statement d}
    (h : runAll (call :: rest) st = (.ok (), st')) :
    ∃ answer, (call.run st).1 = .ok answer ∧ runAll rest (call.run st).2 = (.ok (), st') := by
  rw [runAll] at h
  cases made : call.run st with
  | mk outcome after =>
    rw [made] at h
    cases outcome with
    | error e => cases h
    | ok answer => exact ⟨answer, rfl, h⟩

/-- A call about a part is among those about it. -/
theorem about_cons_of_eq {call : Call} {part : Part} (h : call.part = some part)
    (rest : List Call) : about part (call :: rest) = call :: about part rest :=
  List.filter_cons_of_pos (decide_eq_true h)

/-- A call about another part is not among those about a part. -/
theorem about_cons_of_ne {call : Call} {part : Part} (h : call.part ≠ some part)
    (rest : List Call) : about part (call :: rest) = about part rest :=
  List.filter_cons_of_neg fun same => h (of_decide_eq_true same)

/-- A run of building calls that succeeds is one for each part. -/
theorem leads_of_runAll {calls : List Call} (building : ∀ call ∈ calls, call.Building)
    {st st' : Statement d} (h : runAll calls st = (.ok (), st')) (part : Part) :
    Leads part calls st st' := by
  suffices alone : ∀ own, st.Agree part own →
      ∃ own', runAll (about part calls) own = (.ok (), own') ∧ st'.Agree part own' by
    obtain ⟨own', made, agree⟩ := alone st (.refl part st)
    exact ⟨st, own', .refl part st, made, agree⟩
  induction calls generalizing st with
  | nil =>
    rintro own agree
    obtain ⟨-, rfl⟩ := Prod.mk.inj h
    exact ⟨own, rfl, agree⟩
  | cons call rest ih =>
    intro own agree
    have first := building call List.mem_cons_self
    have later other (mem : other ∈ rest) := building other (List.mem_cons_of_mem _ mem)
    obtain ⟨answer, done, made⟩ := of_runAll_cons h
    by_cases same : call.part = some part
    · have alike := agree_run same first.offline first.given agree
      rw [about_cons_of_eq same, runAll_cons_of_ok (alike.outcome.symm.trans done)]
      exact ih later made _ alike.agree
    · rw [about_cons_of_ne same]
      exact ih later made own (first.agree_of_ne same agree)

/-- Building calls whose runs for each part succeed succeed together and lead to where these do. -/
theorem runAll_of_leads {calls : List Call} (building : ∀ call ∈ calls, call.Building)
    {st st' : Statement d} (h : ∀ part, Leads part calls st st') :
    runAll calls st = (.ok (), st') := by
  induction calls generalizing st with
  | nil =>
    have same part : st.Agree part st' := by
      obtain ⟨own, own', agree, made, agree'⟩ := h part
      obtain ⟨-, rfl⟩ := Prod.mk.inj made
      exact ⟨agree.options.trans agree'.options.symm, agree.session.trans agree'.session.symm,
        agree.content.trans agree'.content.symm⟩
    have states : st.state = st'.state := State.ext_content fun part => (same part).content
    have options := (same .columns).options
    have sessions := (same .columns).session
    obtain ⟨_, _, _⟩ := st
    obtain ⟨_, _, _⟩ := st'
    dsimp only at states options sessions
    rw [states, options, sessions]
    rfl
  | cons call rest ih =>
    have first := building call List.mem_cons_self
    have later other (mem : other ∈ rest) := building other (List.mem_cons_of_mem _ mem)
    obtain ⟨part, own⟩ := Option.isSome_iff_exists.1 first.part
    -- The first call succeeds because it does in the run for its part.
    obtain ⟨st₁, st₁', agree, made, agree'⟩ := h part
    rw [about_cons_of_eq own] at made
    obtain ⟨answer, done, made⟩ := of_runAll_cons made
    have alike := agree_run own first.offline first.given agree
    rw [runAll_cons_of_ok (alike.outcome.trans done)]
    refine ih later fun other => ?_
    by_cases same : call.part = some other
    · obtain rfl := Option.some.inj (own.symm.trans same)
      exact ⟨_, st₁', alike.agree, made, agree'⟩
    · obtain ⟨st₂, st₂', agree₂, made₂, agree₂'⟩ := h other
      rw [about_cons_of_ne same] at made₂
      exact ⟨st₂, st₂', first.agree_of_ne same agree₂, made₂, agree₂'⟩

/-- A program is rearranged: the calls are the same, and those about each part keep their order. -/
structure Rearranged (first second : List Call) : Prop where
  /-- The calls are the same. -/
  perm : first.Perm second
  /-- Those about each part keep their order. -/
  order : ∀ part, about part first = about part second

/-- The order of building calls across clauses does not matter. If all calls of a program succeed,
so do those of a rearranged one, and they lead to the same statement. -/
theorem order_across_clauses {first second : List Call} (rearranged : Rearranged first second)
    (building : ∀ call ∈ first, call.Building) {st st' : Statement d}
    (succeeds : runAll first st = (.ok (), st')) : runAll second st = (.ok (), st') := by
  have building' call (mem : call ∈ second) := building call (rearranged.perm.mem_iff.2 mem)
  refine runAll_of_leads building' fun part => ?_
  obtain ⟨own, own', agree, made, agree'⟩ := leads_of_runAll building succeeds part
  exact ⟨own, own', agree, rearranged.order part ▸ made, agree'⟩

/-- A condition, a derived table that binds a value, a join with shared columns, a column and a
paging. -/
def conditionFirst : List Call :=
  [.require .rows (.value (.text "total")) (.value (.text ">")) (.value (.int 9))
      (.value (.text "AND")),
    .readFrom
      (.callback [.require .rows (.value (.text "paid")) (.value (.int 1)) (.value .omitted)
        (.value (.text "AND")), .readFrom (.value (.text "orders")) (.value .null)])
      (.value (.text "o")),
    .join (.value (.text "users")) (.value .null) (.value .null) (.value .null)
      (.value (.text "left")) (.value (.text "user_id")),
    .select [.value (.text "name")],
    .page (.value (.int 5)) (.value .null)]

/-- The same calls, the condition last. -/
def conditionLast : List Call :=
  conditionFirst.drop 1 ++ conditionFirst.take 1

/-- A condition before the source leads to the same statement as the source before the condition:
the values of the derived table come first. -/
theorem order_across_clauses_conditionFirst :
    ∃ st' : Statement Recording.driver,
      runAll conditionFirst (.blank {} none) = (.ok (), st') ∧
      runAll conditionLast (.blank {} none) = (.ok (), st') ∧
      st'.state.selectText.toOption = some ("SELECT name FROM (SELECT * FROM orders WHERE " ++
        "paid = ?) AS o LEFT JOIN users USING(user_id) WHERE total > ? LIMIT 5") ∧
      st'.state.selectParams = [.int 1, .int 9] := by
  have rearranged : Rearranged conditionFirst conditionLast :=
    ⟨(List.perm_append_comm :
      (conditionFirst.take 1 ++ conditionFirst.drop 1).Perm conditionLast),
      fun part => by cases part <;> rfl⟩
  have building : ∀ call ∈ conditionFirst, call.Building := by
    simp only [conditionFirst, List.forall_mem_cons]
    refine ⟨⟨rfl, rfl, nofun⟩, ⟨rfl, rfl, nofun⟩, ⟨rfl, rfl, ?_⟩, ⟨rfl, rfl, nofun⟩,
      ⟨rfl, rfl, nofun⟩, nofun⟩
    exact fun infers => nomatch infers.unshared
  have succeeds : runAll conditionFirst (.blank {} none : Statement Recording.driver) =
      (.ok (), (runAll conditionFirst (.blank {} none)).2) := by
    refine Prod.ext ?_ rfl
    cases made : (runAll conditionFirst (.blank {} none : Statement Recording.driver)).1 with
    | ok done => rfl
    | error e =>
      have done : (runAll conditionFirst
          (.blank {} none : Statement Recording.driver)).1.toOption.isSome = true := by
        decide +kernel
      rw [made] at done
      cases done
  exact ⟨_, succeeds, order_across_clauses rearranged building succeeds, by decide +kernel,
    rfl⟩

end Call

end SqlBuilder
