import SqlBuilder.Proofs.Growth

/-!
# What failing steps leave behind

A method works out all that it needs, with its callbacks, before it changes the state once, so when
it fails the state is as it was, whatever its callbacks did: it is atomic. There are two exceptions.
Columns are named argument by argument, and those named before a failure stay, with those that the
failing argument yields before it fails; and reading the first row sets the limit before anything
can fail. Methods that only read leave the state as it was in any case.
-/

set_option autoImplicit false

namespace SqlBuilder

open Sql (Compiled)

variable {d : Driver}

/-! ## Columns -/

/-- Whether everything that a value yields can be listed. -/
def Value.isListable (v : Value) : Bool :=
  v.items.toBool

/-- The values up to the first that cannot be listed, with this one. -/
def Value.upToFailing (values : List Value) : List Value :=
  values.takeWhile isListable ++ (values.dropWhile isListable).take 1

namespace Statement

/-- An argument names all its columns when it can be listed. -/
theorem named_snd_eq_ok_iff (v : Value) : (named v).2 = .ok () ↔ v.isListable = true := by
  cases v with
  | text s => exact ⟨fun _ => rfl, fun _ => rfl⟩
  | _ =>
    simp only [named, Value.isListable, Value.items]
    rcases Value.yielded _ with ⟨items, _ | _⟩
    · exact ⟨nofun, nofun⟩
    · exact ⟨fun _ => rfl, fun _ => rfl⟩

/-- An argument that cannot be listed names what it yields before it fails. -/
theorem exists_named_error {v : Value} (h : v.isListable = false) :
    ∃ e, named v = ((named v).1, .error e) := by
  cases outcome : (named v).2 with
  | error e => exact ⟨e, Prod.ext rfl outcome⟩
  | ok done =>
    rw [(named_snd_eq_ok_iff v).1 outcome] at h
    cases h

/-- What cannot be iterated at all names nothing. -/
theorem named_of_elements?_eq_none {v : Value} (h : v.elements? = none) :
    named v = ([], .error .wrongType) := by
  cases v with
  | text s => cases h
  | range start stop step => cases h
  | series form items => cases h
  | _ =>
    simp only [named, Value.yielded]
    rw [h]

/-- The columns of an argument that can be listed come before those of the other arguments. -/
theorem namedColumns_cons_of_isListable {v : Value} (h : v.isListable = true)
    (rest : List Value) :
    namedColumns (v :: rest) = ((named v).1 ++ (namedColumns rest).1, (namedColumns rest).2) := by
  have done : named v = ((named v).1, .ok ()) := Prod.ext rfl ((named_snd_eq_ok_iff v).2 h)
  rw [namedColumns, done]

/-- An argument that cannot be listed ends the listing. -/
theorem namedColumns_cons_of_not_isListable {v : Value} (h : v.isListable = false)
    (rest : List Value) : ∃ e, namedColumns (v :: rest) = ((named v).1, .error e) := by
  obtain ⟨e, failed⟩ := exists_named_error h
  refine ⟨e, ?_⟩
  rw [namedColumns, failed]

/-- The columns up to those of the first argument that cannot be listed are named, in order. -/
theorem namedColumns_fst (arguments : List Value) :
    (namedColumns arguments).1 =
      (Value.upToFailing arguments).flatMap fun v => (named v).1 := by
  unfold Value.upToFailing
  induction arguments with
  | nil => rfl
  | cons v rest ih =>
    cases h : v.isListable with
    | true =>
      rw [namedColumns_cons_of_isListable h, List.takeWhile_cons_of_pos h,
        List.dropWhile_cons_of_pos h, List.cons_append, List.flatMap_cons, ih]
    -- It ends the listing, but not without what it yielded.
    | false =>
      have not : ¬v.isListable = true := by rw [h]; exact Bool.false_ne_true
      obtain ⟨e, ended⟩ := namedColumns_cons_of_not_isListable h rest
      rw [ended, List.takeWhile_cons_of_neg not, List.dropWhile_cons_of_neg not]
      exact (List.append_nil _).symm

/-- Naming columns succeeds when all arguments can be listed. -/
theorem namedColumns_snd_eq_ok_iff (arguments : List Value) :
    (namedColumns arguments).2 = .ok () ↔ ∀ v ∈ arguments, v.isListable = true := by
  induction arguments with
  | nil => exact ⟨fun _ => nofun, fun _ => rfl⟩
  | cons v rest ih =>
    cases h : v.isListable with
    | true =>
      rw [namedColumns_cons_of_isListable h, ih, List.forall_mem_cons]
      exact ⟨fun later => ⟨h, later⟩, fun all => all.2⟩
    | false =>
      obtain ⟨e, ended⟩ := namedColumns_cons_of_not_isListable h rest
      rw [ended]
      refine ⟨nofun, fun all => ?_⟩
      rw [all v List.mem_cons_self] at h
      cases h

end Statement

/-! ## Methods -/

/-- A method that leaves the state as it was when it fails. -/
def Statement.Atomic {α : Type} (method : Statement d → Outcome d α) : Prop :=
  ∀ st e, (method st).1 = .error e → (method st).2.state = st.state

/-- An outcome that a function is applied to fails when it did before. -/
theorem of_map_eq_error {α β ε : Type} {x : Except ε α} {f : α → β} {e : ε}
    (h : x.map f = .error e) : x = .error e := by
  cases x with
  | error e' => exact congrArg Except.error (Except.error.inj h)
  | ok a => cases h

namespace Statement

/-- The answer of an atomic method is that of an atomic method. -/
theorem Atomic.self {method : Statement d → Outcome d Unit} (h : Atomic method) :
    Atomic fun st => (method st).self :=
  fun st e failed => h st e (of_map_eq_error failed)

/-- A change that fails changes nothing. -/
theorem change_of_error {st : Statement d} {state : Except Error State} {e : Error}
    (h : (st.change state).1 = .error e) : (st.change state).2 = st := by
  cases state with
  | error _ => rfl
  | ok _ => cases h

/-- A second source and a callback that fails leave the state as it was. -/
theorem atomic_readFrom (source : Argument d) (aliasName : Value) :
    Atomic fun st : Statement d => st.readFrom source aliasName := by
  intro st e failed
  dsimp only at failed ⊢
  rw [readFrom.eq_def] at failed ⊢
  cases known : st.state.source with
  | some present => rfl
  | none =>
    rw [known] at failed
    cases source with
    | value reference => exact congrArg state (change_of_error failed)
    | callback build =>
      exact (congrArg state (change_of_error failed)).trans (state_nestedCompiled st build)

/-- A join that fails leaves the statement as it was. -/
theorem atomic_join (request : JoinRequest) :
    Atomic fun st : Statement d => st.join request := by
  intro st e failed
  exact congrArg state (change_of_error failed)

/-- A union is refused before the state changes, even when the kind is checked last. -/
theorem atomic_union (branch : Argument d) (kind : Value) :
    Atomic fun st : Statement d => st.union branch kind := by
  intro st e failed
  cases branch with
  | value v => rfl
  | callback build =>
    exact (congrArg state (change_of_error failed)).trans (state_nestedCompiled st build)

/-- A condition that cannot be made leaves the state as it was. -/
theorem atomic_require (clause : Clause) (column operator value : Argument d)
    (connector : Value) :
    Atomic fun st : Statement d => st.require clause column operator value connector := by
  intro st e failed
  dsimp only at failed ⊢
  rw [require] at failed ⊢
  cases checked : Connector.ofValue (some clause.name) connector with
  | error e => rfl
  | ok k =>
    rw [checked] at failed
    exact (congrArg state (change_of_error failed)).trans (state_resolve st _ _ _ _)

/-- A test for membership that fails leaves the statement as it was. -/
theorem atomic_requireMember (operator : String) (column values : Argument d)
    (connector : Value) :
    Atomic fun st : Statement d => st.requireMember operator column values connector := by
  intro st e failed
  dsimp only at failed ⊢
  rw [requireMember_eq] at failed ⊢
  cases listed : values.items with
  | error e => rfl
  | ok items =>
    rw [listed] at failed
    exact atomic_require _ _ _ _ _ st e failed

/-- An ordering that fails leaves the statement as it was. -/
theorem atomic_order (column direction : Value) :
    Atomic fun st : Statement d => st.order column direction := by
  intro st e failed
  exact congrArg state (change_of_error failed)

/-- A paging that fails leaves the statement as it was. -/
theorem atomic_page (limit offset : Value) :
    Atomic fun st : Statement d => st.page limit offset := by
  intro st e failed
  exact congrArg state (change_of_error failed)

end Statement

/-! ## Steps -/

/-- The columns that arguments name up to the first that cannot be listed, with those that this one
names before it fails. -/
def Arg.columnsNamed (arguments : List Arg) : List Value :=
  (Value.upToFailing (arguments.map Arg.toValue)).flatMap fun v => (Statement.named v).1

/-- The columns named are those of the arguments before the first that cannot be listed and then
what this one names. -/
theorem Arg.columnsNamed_append_cons {before : List Arg} {failing : Arg}
    (listed : ∀ argument ∈ before, argument.toValue.isListable = true)
    (fails : failing.toValue.isListable = false) (after : List Arg) :
    columnsNamed (before ++ failing :: after) =
      before.flatMap (fun argument => (Statement.named argument.toValue).1) ++
        (Statement.named failing.toValue).1 := by
  have listed : ∀ v ∈ before.map toValue, v.isListable = true := List.forall_mem_map.2 listed
  have not : ¬failing.toValue.isListable = true := by rw [fails]; exact Bool.false_ne_true
  rw [columnsNamed, Value.upToFailing, List.map_append, List.map_cons,
    List.takeWhile_append_of_pos listed, List.dropWhile_append_of_pos listed,
    List.takeWhile_cons_of_neg not, List.dropWhile_cons_of_neg not, List.append_nil,
    List.flatMap_append, List.flatMap_map]
  exact congrArg _ (List.append_nil _)

/-- What a state is after a step that failed. -/
def State.afterFailure (s : State) : Step → State
  | .call (.select columns) => { s with columns := s.columns ++ Arg.columnsNamed columns }
  | .call (.group columns) => { s with grouping := s.grouping ++ Arg.columnsNamed columns }
  | .call .first => { s with limit := some (.int 1) }
  | _ => s

/-- A call that fails leaves the state as it was, up to the columns already named and the limit. -/
theorem Call.state_of_error {call : Call} {st : Statement d} {e : Error}
    (failed : (call.run st).1 = .error e) :
    (call.run st).2.state = st.state.afterFailure (.call call) := by
  cases call with
  | select columns =>
    exact congrArg (fun more => { st.state with columns := st.state.columns ++ more })
      (Statement.namedColumns_fst _)
  | group columns =>
    exact congrArg (fun more => { st.state with grouping := st.state.grouping ++ more })
      (Statement.namedColumns_fst _)
  | first => exact Statement.state_first st
  | readFrom source aliasName => exact (Statement.atomic_readFrom _ _).self st e failed
  | join table first operator second kind shared => exact (Statement.atomic_join _).self st e failed
  | union branch kind => exact (Statement.atomic_union _ _).self st e failed
  | require clause column operator value connector =>
    exact (Statement.atomic_require _ _ _ _ _).self st e failed
  | requireMember operator column values connector =>
    exact (Statement.atomic_requireMember _ _ _ _).self st e failed
  | order column direction => exact (Statement.atomic_order _ _).self st e failed
  | page limit offset => exact (Statement.atomic_page _ _).self st e failed
  | get | insert | update | delete => exact Statement.state_running st _ _
  | _ => rfl

/-- A call that is about no part of the state leaves it as it was, whether it fails or not. -/
theorem Call.state_of_part_eq_none {call : Call} (none : call.part = none) (st : Statement d) :
    (call.run st).2.state = st.state := by
  refine State.ext_content fun part => ?_
  refine (Call.moves (call.yields_anything st)).content_of_ne ?_
  rw [none]
  nofun

namespace Workspace

variable {w : Workspace d}

/-- A step that fails leaves the state as it was, up to the columns already named and the limit. -/
theorem state_of_error {step : Step} {e : Error} (failed : (w.step step).1 = .error e) :
    (w.step step).2.statement.state = w.statement.state.afterFailure step := by
  by_cases made : ∃ call, step = .call call
  · obtain ⟨call, rfl⟩ := made
    exact Call.state_of_error (of_map_eq_error failed)
  · have noCall call : step ≠ .call call := fun is => made ⟨call, is⟩
    have same : step ≠ .renew := by
      rintro rfl
      cases failed
    rw [w.state_step noCall same]
    cases step with
    | call call => exact absurd rfl (noCall call)
    | _ => rfl

/-- A step that is about no part of the state leaves it as it was, whether it fails or not. -/
theorem state_of_part_eq_none {step : Step} (none : step.part = none) (same : step ≠ .renew) :
    (w.step step).2.statement.state = w.statement.state := by
  cases step with
  | call call => exact Call.state_of_part_eq_none none w.statement
  | renew => exact absurd rfl same
  | _ => exact w.state_step nofun same

end Workspace

/-- Columns are named, and the call succeeds, when all arguments can be listed. -/
theorem Statement.named_eq_ok_iff (columns : List Arg) :
    (((namedColumns (columns.map Arg.toValue)).2.map fun _ => Answer.self).map StepAnswer.call =
        .ok (.call .self)) ↔ ∀ argument ∈ columns, argument.toValue.isListable = true := by
  have listed := namedColumns_snd_eq_ok_iff (columns.map Arg.toValue)
  rw [List.forall_mem_map] at listed
  rw [← listed]
  cases (namedColumns (columns.map Arg.toValue)).2 with
  | error e => exact ⟨nofun, nofun⟩
  | ok u => exact ⟨fun _ => rfl, fun _ => rfl⟩

/-- Failing steps leave the state of a statement as it was. In every workspace, after a step that
failed the state is the one before, except that columns which were named before the failure are kept
and that reading the first row leaves the limit one. Naming columns fails exactly when some argument
cannot be listed; named before that are the columns of the arguments before it and what it yields
before it fails, which is nothing if it cannot be iterated at all. Steps that are about no part of
the state, which are those that compile, list values, run the statement or use its iterators, leave
it as it was also when they succeed, and reading the first row changes the limit only. The methods
that take callbacks are atomic for every function as the callback, not only for calls one after
another. -/
theorem failures_leave_state (w : Workspace d) :
    (∀ step e, (w.step step).1 = .error e →
      (w.step step).2.statement.state = w.statement.state.afterFailure step) ∧
    (∀ columns : List Arg,
      ((w.step (.call (.select columns))).1 = .ok (.call .self) ↔
        ∀ argument ∈ columns, argument.toValue.isListable = true) ∧
      ((w.step (.call (.group columns))).1 = .ok (.call .self) ↔
        ∀ argument ∈ columns, argument.toValue.isListable = true)) ∧
    (∀ (before : List Arg) (failing : Arg) (after : List Arg),
      (∀ argument ∈ before, argument.toValue.isListable = true) →
      failing.toValue.isListable = false →
      Arg.columnsNamed (before ++ failing :: after) =
        before.flatMap (fun argument => (Statement.named argument.toValue).1) ++
          (Statement.named failing.toValue).1) ∧
    (∀ v : Value, v.elements? = none → Statement.named v = ([], .error .wrongType)) ∧
    (∀ step, step.part = none → step ≠ .renew →
      (w.step step).2.statement.state = w.statement.state) ∧
    (w.step (.call .first)).2.statement.state =
      { w.statement.state with limit := some (.int 1) } ∧
    (∀ (source : Argument d) (aliasName : Value),
      Statement.Atomic fun st => st.readFrom source aliasName) ∧
    (∀ (branch : Argument d) (kind : Value), Statement.Atomic fun st => st.union branch kind) ∧
    (∀ (clause : Clause) (column operator value : Argument d) (connector : Value),
      Statement.Atomic fun st => st.require clause column operator value connector) ∧
    (∀ (operator : String) (column values : Argument d) (connector : Value),
      Statement.Atomic fun st => st.requireMember operator column values connector) := by
  refine ⟨?_, ?_, ?_, ?_, ?_, ?_, ?_, ?_, ?_, ?_⟩
  · exact fun step e failed => Workspace.state_of_error failed
  · exact fun columns => ⟨Statement.named_eq_ok_iff columns, Statement.named_eq_ok_iff columns⟩
  · exact fun before failing after listed fails => Arg.columnsNamed_append_cons listed fails after
  · exact fun v none => Statement.named_of_elements?_eq_none none
  · exact fun step none same => Workspace.state_of_part_eq_none none same
  · exact Statement.state_first w.statement
  · exact Statement.atomic_readFrom
  · exact Statement.atomic_union
  · exact Statement.atomic_require
  · exact Statement.atomic_requireMember

/-- A condition in brackets whose callback adds a condition and then a union, in whose callback a
paging below zero is asked for after a source is set. -/
def belowZeroInUnion : Call :=
  .require .rows
    (.callback [.require .rows (.value (.text "paid")) (.value (.int 1)) (.value .omitted)
        (.value (.text "AND")),
      .union (.callback [.readFrom (.value (.text "orders")) (.value .null),
        .page (.value (.int (-1))) (.value .null)]) (.value (.text "ALL"))])
    (.value .omitted) (.value .omitted) (.value (.text "OR"))

/-- Columns of which the third cannot be listed. -/
def columnsAroundNumber : List Arg :=
  [.value (.text "id"), .value (.series .list [.text "name", .text "age"]), .value (.int 5),
    .value (.text "city")]

/-- Columns of which the second comes from a stream that fails after one of them. -/
def columnsAroundFault : List Arg :=
  [.value (.text "id"), .value (.series (.faulty "stopped") [.text "name"]), .value (.text "city")]

/-- After a source, a group and a paging, a paging below zero two callbacks deep leaves the state as
it was; columns before a number are kept, and so are those that a stream yields before it fails; and
reading the first row without a driver leaves the limit one and the offset as it was. -/
theorem failures_leave_state_belowZero :
    let w := (({ statement := .blank {} none } : Workspace Recording.driver).steps pagedGroup).2
    (w.step (.call belowZeroInUnion)).1 = .error .negativePaging ∧
      (w.step (.call belowZeroInUnion)).2.statement.state = w.statement.state ∧
      (w.step (.call (.select columnsAroundNumber))).1 = .error .wrongType ∧
      (w.step (.call (.select columnsAroundNumber))).2.statement.state =
        { w.statement.state with columns := [.text "id", .text "name", .text "age"] } ∧
      (w.step (.call (.select columnsAroundFault))).1 = .error (.interrupted "stopped") ∧
      (w.step (.call (.select columnsAroundFault))).2.statement.state =
        { w.statement.state with columns := [.text "id", .text "name"] } ∧
      (w.step (.call .first)).1 = .error .noDriver ∧
      (w.step (.call .first)).2.statement.state =
        { w.statement.state with limit := some (.int 1) } := by
  intro w
  have deep : (w.step (.call belowZeroInUnion)).1 = .error .negativePaging := rfl
  have number : (w.step (.call (.select columnsAroundNumber))).1 = .error .wrongType := rfl
  have fault : (w.step (.call (.select columnsAroundFault))).1 =
      .error (.interrupted "stopped") := rfl
  obtain ⟨failing, -, -, -, -, first, -⟩ := failures_leave_state w
  exact ⟨deep, failing _ _ deep, number, failing _ _ number, fault, failing _ _ fault, rfl, first⟩

/-- A text and a range that is too long to be listed. -/
def columnsAndLongRange : List Arg :=
  [.value (.text "id"), .value (.range 0 9223372036854775808 1)]

/-- Columns can be kept although every argument can be iterated: the one before a range that cannot
be measured, and the one that a stream yields before it fails. -/
theorem failing_iteration_keeps_columns :
    let w : Workspace Recording.driver := { statement := .blank {} none }
    (∀ columns ∈ [columnsAndLongRange, columnsAroundFault], ∀ argument ∈ columns,
        argument.toValue.elements?.isSome = true) ∧
      (w.step (.call (.select columnsAndLongRange))).1 = .error .overflow ∧
      (w.step (.call (.select columnsAndLongRange))).2.statement.state.columns = [.text "id"] ∧
      (w.step (.call (.select columnsAroundFault))).1 = .error (.interrupted "stopped") ∧
      (w.step (.call (.select columnsAroundFault))).2.statement.state.columns =
        [.text "id", .text "name"] ∧
      w.statement.state.columns = [] := by
  refine ⟨?_, rfl, rfl, rfl, rfl, rfl⟩
  simp [columnsAndLongRange, columnsAroundFault, Arg.toValue, Value.elements?]

end SqlBuilder
