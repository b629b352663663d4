import SqlBuilder.Proofs.CompleteRows
import SqlBuilder.Proofs.Conversations

/-!
# Results and their closing

A successful execution leaves a result to read from. Closing releases it, and then there is none
until the next successful execution, whatever else is tried: there is no row to fetch and none to
count, and closing once more does nothing. A ledger says the rest: a result that is closed was
brought by an execution and is held no more, so closings never outnumber successful executions.
-/

set_option autoImplicit false

namespace SqlBuilder

variable {d : Driver}

/-! ## What a history says -/

namespace Made

/-- A successful execution. -/
def executes (made : Made d) : Bool :=
  match made.call, made.outcome with
  | .execute, .ok _ => true
  | _, _ => false

/-- A call that closes. -/
def closes (made : Made d) : Bool :=
  match made.call with
  | .close => true
  | _ => false

end Made

/-- Every successful execution is followed by a call that closes. -/
def Settled : List (Made d) → Prop
  | [] => True
  | made :: later => (made.executes = true → ∃ after ∈ later, after.closes = true) ∧ Settled later

/-- A history is settled or not, which one sees by going through it. -/
instance decidableSettled : (history : List (Made d)) → Decidable (Settled history)
  | [] => .isTrue trivial
  | _ :: later =>
    have := decidableSettled later
    inferInstanceAs (Decidable (_ ∧ _))

/-- Whether a result is open after some calls if one was open before them, or not. -/
def openAfter (before : Bool) (history : List (Made d)) : Bool :=
  history.foldl (fun opened made => made.executes || opened && !made.closes) before

/-- No result is open exactly when every execution is settled, and what was open before them is. -/
theorem openAfter_eq_false_iff (before : Bool) (history : List (Made d)) :
    openAfter before history = false ↔
      Settled history ∧ (before = false ∨ ∃ made ∈ history, made.closes = true) := by
  induction history generalizing before with
  | nil => simp [openAfter, Settled]
  | cons made later ih =>
    have rest := ih (made.executes || before && !made.closes)
    rw [openAfter] at rest
    rw [openAfter, List.foldl_cons, rest, Settled]
    cases made.executes with
    | true =>
      simp only [Bool.true_or, reduceCtorEq, false_or, List.mem_cons, exists_eq_or_imp]
      tauto
    | false => cases before <;> simp

/-- How many executions were successful. -/
def executions (history : List (Made d)) : Nat :=
  history.countP Made.executes

/-- A successful execution counts one. -/
theorem executions_cons (made : Made d) (later : List (Made d)) :
    executions (made :: later) = made.executes.toNat + executions later := by
  rw [executions, executions, List.countP_cons, Nat.add_comm]
  cases made.executes <;> rfl

/-! ## Custody of a result -/

/-- How a driver keeps the result of an execution for a prepared statement. -/
structure Custody (d : Driver) where
  /-- Whether a result is held. -/
  holds : d.Prepared → Bool
  /-- Nothing is left to read from. -/
  empty : d.Prepared → Prop
  /-- Whether an event reports that a result was closed. -/
  released : d.Event → Bool

namespace Custody

variable (v : Custody d)

/-- How many results were closed. -/
def closings (history : List (Made d)) : Nat :=
  (history.flatMap Made.events).countP v.released

/-- A call counts the results that it releases. -/
theorem closings_cons (made : Made d) (later : List (Made d)) :
    v.closings (made :: later) = made.events.countP v.released + v.closings later := by
  rw [closings, closings, List.flatMap_cons, List.countP_append]

/-- Where no result is held, nothing is left of an earlier one. -/
def Fits (p : d.Prepared) : Prop :=
  v.holds p = false → v.empty p

/-- What a call leaves behind that makes no difference to the result. -/
structure Keeps (p q : d.Prepared) (events : List d.Event) : Prop where
  /-- Whether a result is held. -/
  holds : v.holds q = v.holds p
  /-- What is left of an earlier one. -/
  fits : v.Fits p → v.Fits q
  /-- No result is released. -/
  silent : events.countP v.released = 0

/-- A driver holds at most one result for a prepared statement: an execution brings it if it is
successful, closing releases it, and no other call makes a difference. -/
structure Lawful : Prop where
  /-- There is no result at first. -/
  prepare : ∀ sql c, v.holds (d.prepare sql c).1 = false ∧ v.empty (d.prepare sql c).1
  /-- Binding a value. -/
  bind : ∀ p c position value tag,
    v.Keeps p (d.bind p c position value tag).prepared (d.bind p c position value tag).events
  /-- A failed execution changes nothing, a successful one brings a result. -/
  execute : ∀ p c, (d.execute p c).events.countP v.released = 0 ∧
    ((∃ e, (d.execute p c).outcome = .error e) ∧ (d.execute p c).prepared = p ∨
      (d.execute p c).outcome = .ok () ∧ v.holds (d.execute p c).prepared = true)
  /-- Asking for a row. -/
  fetch : ∀ p c, v.Keeps p (d.fetch p c).prepared (d.fetch p c).events
  /-- Closing reports that the result is released, and leaves nothing to read from. -/
  close : ∀ p c, v.holds p = true → v.holds (d.close p c).1 = false ∧ v.empty (d.close p c).1 ∧
    (d.close p c).2.2.countP v.released = 1
  /-- With nothing to read from, there is no row, no count, and nothing to close. -/
  idle : ∀ p, v.empty p → d.rowCount p = 0 ∧
    ∀ c, d.fetch p c = ⟨.ok none, p, c, []⟩ ∧ d.close p c = (p, c, [])
  /-- Counts are not negative. -/
  counts : ∀ p, 0 ≤ d.rowCount p

/-- What a call leaves behind: a result if it executes, none if it closes, and otherwise what was
there. Closing is reported if a result was held, and at no other time. -/
structure Steps (p : d.Prepared) (c : d.Connection) (call : HandleCall) : Prop where
  /-- What is left of an earlier result. -/
  fits : v.Fits (d.handle p c call).prepared
  /-- Whether a result is held afterwards. -/
  holds : v.holds (d.handle p c call).prepared =
    ((d.make p c call).executes || v.holds p && !(d.make p c call).closes)
  /-- How many results are released. -/
  released : (d.make p c call).events.countP v.released =
    ((d.make p c call).closes && v.holds p).toNat

variable {v} {p : d.Prepared}

/-- A call that makes no difference to a result, and neither executes nor closes, is a step of its
custody. -/
theorem Keeps.steps {c : d.Connection} {call : HandleCall} (fits : v.Fits p)
    (h : v.Keeps p (d.handle p c call).prepared (d.handle p c call).events)
    (executes : (d.make p c call).executes = false) (closes : (d.make p c call).closes = false) :
    v.Steps p c call := by
  refine ⟨h.fits fits, ?_, ?_⟩
  · rw [executes, closes, h.holds]
    simp
  · rw [closes]
    exact h.silent

variable (lawful : v.Lawful)

include lawful

/-- Every call on a prepared statement is a step of a lawful custody. -/
theorem Lawful.steps (fits : v.Fits p) (c : d.Connection) (call : HandleCall) :
    v.Steps p c call := by
  cases call with
  | bind position value tag => exact (lawful.bind p c position value tag).steps fits rfl rfl
  | execute =>
    obtain ⟨silent, ⟨⟨e, failed⟩, same⟩ | ⟨ok, held⟩⟩ := lawful.execute p c
    · have failed : (d.make p c .execute).executes = false := by
        simp [Driver.make, Driver.handle, Contact.map, Made.executes, failed, Except.map]
      have same : (d.handle p c .execute).prepared = p := same
      exact Keeps.steps fits ⟨by rw [same], fun _ => by rwa [same], silent⟩ failed rfl
    · have ok : (d.make p c .execute).executes = true := by
        simp [Driver.make, Driver.handle, Contact.map, Made.executes, ok, Except.map]
      have held : v.holds (d.handle p c .execute).prepared = true := held
      refine ⟨fun none => ?_, ?_, silent⟩
      · rw [held] at none
        cases none
      · rw [ok, held, Bool.true_or]
  | fetch => exact (lawful.fetch p c).steps fits rfl rfl
  | columns => exact Keeps.steps fits ⟨rfl, id, rfl⟩ rfl rfl
  | rowCount => exact Keeps.steps fits ⟨rfl, id, rfl⟩ rfl rfl
  | close =>
    have executes : (d.make p c .close).executes = false := rfl
    have closes : (d.make p c .close).closes = true := rfl
    cases held : v.holds p with
    | true =>
      obtain ⟨none, empty, once⟩ := lawful.close p c held
      refine ⟨fun _ => empty, ?_, ?_⟩
      · rw [executes, closes, held]
        exact none
      · rw [closes, held]
        exact once
    | false =>
      have idle := ((lawful.idle p (fits held)).2 c).2
      have same : (d.handle p c .close).prepared = p := congrArg Prod.fst idle
      have silent : (d.make p c .close).events = [] := congrArg (·.2.2) idle
      refine ⟨by rwa [same], ?_, ?_⟩
      · rw [same, executes, held]
        rfl
      · rw [silent, held, Bool.and_false]
        rfl

/-- Whether a result is held after some calls is as their history says. -/
theorem Lawful.holds_converse (fits : v.Fits p) (calls : List (d.Connection × HandleCall)) :
    v.Fits (d.converse p calls).2 ∧
      v.holds (d.converse p calls).2 = openAfter (v.holds p) (d.converse p calls).1 := by
  induction calls generalizing p with
  | nil => exact ⟨fits, rfl⟩
  | cons first rest ih =>
    obtain ⟨c, call⟩ := first
    have step := lawful.steps fits c call
    obtain ⟨later, held⟩ := ih step.fits
    refine ⟨later, ?_⟩
    rw [Driver.converse_cons, held, step.holds]
    rfl

/-- The ledger of results: those that are closed and the one that is still held were brought by
executions or held before. -/
theorem Lawful.closings_add_le (fits : v.Fits p) (calls : List (d.Connection × HandleCall)) :
    v.closings (d.converse p calls).1 + (v.holds (d.converse p calls).2).toNat ≤
      executions (d.converse p calls).1 + (v.holds p).toNat := by
  induction calls generalizing p with
  | nil => simp [closings, executions]
  | cons first rest ih =>
    obtain ⟨c, call⟩ := first
    have step := lawful.steps fits c call
    have later := ih step.fits
    rw [step.holds] at later
    -- What this call closes was held before it, and what is held after it may be new.
    have balance (e k h : Bool) : (k && h).toNat + (e || h && !k).toNat ≤ e.toNat + h.toNat := by
      cases e <;> cases k <;> cases h <;> decide
    have here := balance (d.make p c call).executes (d.make p c call).closes (v.holds p)
    simp only [Driver.converse_cons, closings_cons, executions_cons, step.released]
    omega

end Custody

/-! ## The adapters -/

/-- Whether an event reports that a result was closed. -/
def Event.isClosed : Event → Bool
  | .closed => true
  | _ => false

namespace Positional

/-- The positional driver holds a result as long as it holds a cursor. -/
def custody : Custody driver where
  holds p := (Prepared.cursor p).isSome
  empty p := Prepared.cursor p = none
  released := Event.isClosed

/-- Binding by position, the cursor is kept from a successful execution until closing. -/
theorem custody_lawful : custody.Lawful where
  prepare sql c := ⟨rfl, rfl⟩
  bind p c position value tag := by
    simp only [driver, Prepared.bind]
    split
    · exact ⟨rfl, id, rfl⟩
    · split <;> exact ⟨rfl, id, rfl⟩
  execute p c := by
    simp only [driver, Prepared.execute]
    split
    · exact ⟨rfl, .inl ⟨⟨_, rfl⟩, rfl⟩⟩
    · exact ⟨rfl, .inr ⟨rfl, rfl⟩⟩
  fetch p c := by
    simp only [driver, Prepared.fetch]
    split
    · exact ⟨rfl, id, rfl⟩
    · rename_i cursor held
      refine ⟨?_, fun _ none => ?_, rfl⟩
      · simp [custody, held]
      · cases none
  close p c held := by
    simp only [driver, Prepared.close]
    split
    · rename_i none
      simp [custody, none] at held
    · exact ⟨rfl, rfl, rfl⟩
  idle p none := by
    have none : Prepared.cursor p = Option.none := none
    refine ⟨?_, fun c => ⟨?_, ?_⟩⟩
    · simp only [driver, Prepared.rowCount, none]
    · simp only [driver, Prepared.fetch, none]
    · simp only [driver, Prepared.close, none]
  counts p := by
    simp only [driver, Prepared.rowCount]
    split <;> omega

end Positional

namespace Named

/-- The driver with named binds holds a result as long as it holds a reply; the rows are read apart
from it. -/
def custody : Custody driver where
  holds p := (Prepared.reply p).isSome
  empty p := Prepared.reply p = none ∧ Prepared.rows p = none
  released := Event.isClosed

/-- Binding by name, the result is kept from a successful execution until closing. -/
theorem custody_lawful : custody.Lawful where
  prepare sql c := ⟨rfl, rfl, rfl⟩
  bind p c position value tag := by
    simp only [driver, Prepared.bind]
    split
    · split
      · split <;> exact ⟨rfl, id, rfl⟩
      · exact ⟨rfl, id, rfl⟩
    · exact ⟨rfl, id, rfl⟩
  execute p c := by
    simp only [driver, Prepared.execute]
    split
    · exact ⟨rfl, .inl ⟨⟨_, rfl⟩, rfl⟩⟩
    · split
      · exact ⟨rfl, .inl ⟨⟨_, rfl⟩, rfl⟩⟩
      · refine ⟨rfl, .inr ⟨rfl, ?_⟩⟩
        simp only [Prepared.accept, custody]
        split <;> rfl
  fetch p c := by
    simp only [driver, Prepared.fetch]
    split
    · exact ⟨rfl, id, rfl⟩
    · rename_i cursor reads
      refine ⟨rfl, fun fits none => ?_, rfl⟩
      -- There are rows to read from, so a result is held.
      have unread : Prepared.rows p = Option.none := (fits none).2
      rw [reads] at unread
      cases unread
  close p c held := by
    simp only [driver, Prepared.close]
    split
    · rename_i none
      simp [custody, none] at held
    · exact ⟨rfl, ⟨rfl, rfl⟩, rfl⟩
  idle p empty := by
    obtain ⟨reply, rows⟩ : Prepared.reply p = none ∧ Prepared.rows p = none := empty
    refine ⟨?_, fun c => ⟨?_, ?_⟩⟩
    · simp only [driver, Prepared.rowCount, reply]
    · simp only [driver, Prepared.fetch, rows]
    · simp only [driver, Prepared.close, reply]
  counts p := by
    simp only [driver, Prepared.rowCount]
    split <;> omega

end Named

/-! ## Both adapters -/

/-- How an adapter keeps the result of an execution. -/
def Adapter.custody : (a : Adapter) → Custody a.driver
  | positional => Positional.custody
  | named => Named.custody

/-- Both adapters keep results lawfully. -/
theorem Adapter.custody_lawful : (a : Adapter) → a.custody.Lawful
  | positional => Positional.custody_lawful
  | named => Named.custody_lawful

/-- After any calls on a prepared statement, on whatever connections: when every successful
execution is followed by a call that closes, there is nothing to read from, no row comes, none is
counted, and closing does nothing; when one is not, closing releases its result. Counts are never
negative. Results are closed at most as often as executions succeed, and at most once until the next
execution that succeeds. -/
theorem closing_is_final (a : Adapter) (sql : String) (c : a.driver.Connection)
    (calls : List (a.driver.Connection × HandleCall)) :
    let done := a.driver.converse (a.driver.prepare sql c).1 calls
    (Settled done.1 → a.custody.empty done.2 ∧ a.driver.rowCount done.2 = 0 ∧
      ∀ c, a.driver.fetch done.2 c = ⟨.ok none, done.2, c, []⟩ ∧
        a.driver.close done.2 c = (done.2, c, [])) ∧
    (¬Settled done.1 → ∀ c, a.custody.empty (a.driver.close done.2 c).1 ∧
      (a.driver.close done.2 c).2.2.countP a.custody.released = 1) ∧
    0 ≤ a.driver.rowCount done.2 ∧
    a.custody.closings done.1 ≤ executions done.1 ∧
    ∀ more, let later := a.driver.converse done.2 more
      executions later.1 = 0 → a.custody.closings later.1 ≤ 1 ∧
        (Settled done.1 → a.custody.closings later.1 = 0) := by
  intro done
  have lawful := a.custody_lawful
  obtain ⟨none, empty⟩ := lawful.prepare sql c
  obtain ⟨fits, held⟩ : a.custody.Fits done.2 ∧
      a.custody.holds done.2 = openAfter (a.custody.holds (a.driver.prepare sql c).1) done.1 :=
    lawful.holds_converse (fun _ => empty) calls
  -- A result is held exactly if some execution is not settled.
  have settled_iff : a.custody.holds done.2 = false ↔ Settled done.1 := by
    rw [held, none, openAfter_eq_false_iff]
    simp
  refine ⟨fun settled => ?_, fun unsettled c => ?_, lawful.counts done.2, ?_, ?_⟩
  · have empty := fits (settled_iff.2 settled)
    exact ⟨empty, lawful.idle done.2 empty⟩
  · have holds : a.custody.holds done.2 = true := by
      rw [← Bool.not_eq_false, settled_iff]
      exact unsettled
    exact (lawful.close done.2 c holds).2
  · have ledger := lawful.closings_add_le (fun _ => empty) calls
    rw [none] at ledger
    exact Nat.le_of_add_right_le ledger
  · intro more later still
    have ledger : a.custody.closings later.1 + _ ≤ executions later.1 + _ :=
      lawful.closings_add_le fits more
    rw [still] at ledger
    have bound : (a.custody.holds done.2).toNat ≤ 1 := Bool.toNat_le _
    refine ⟨by omega, fun settled => ?_⟩
    rw [settled_iff.2 settled, Bool.toNat_false] at ledger
    omega

/-- A successful execution, a row, a call that closes, a failed execution, and a second close. -/
def retried : List (Connection × HandleCall) :=
  let rows : Connection := { script := [{ columns := some ["n"], rows := [[.int 1], [.int 2]] }] }
  let locked : Connection := { script := [{ failure := some ⟨.operational, "locked"⟩ }] }
  [(rows, .fetch), (rows, .execute), (rows, .fetch), (rows, .close), (locked, .execute),
    (rows, .close)]

/-- The rows that were not read before closing do not come back, and there is one closing. -/
theorem closing_is_final_retried :
    let done := Named.driver.converse (Named.driver.prepare "VALUES (1), (2)" { script := [] }).1
      retried
    executions done.1 = 1 ∧ Named.custody.closings done.1 = 1 ∧
      Named.driver.fetch done.2 { script := [] } = ⟨.ok none, done.2, { script := [] }, []⟩ := by
  have final := closing_is_final .named "VALUES (1), (2)" { script := [] } retried
  have settled : Settled (Named.driver.converse
      (Named.driver.prepare "VALUES (1), (2)" { script := [] }).1 retried).1 := by
    decide +kernel
  exact ⟨by decide +kernel, by decide +kernel, ((final.1 settled).2.2 { script := [] }).1⟩

end SqlBuilder
