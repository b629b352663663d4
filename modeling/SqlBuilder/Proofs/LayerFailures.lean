import SqlBuilder.Proofs.BindOrder
import SqlBuilder.Proofs.Tracing

/-!
# Adapters fail as their layer does

When an adapter comes to ask the database for a compiled statement, it takes all values in order,
and the execution fails exactly as the database layer does. So an adapter fails in this library's
terms with every statement that it asks for, as long as its layer has only failures that the adapter
knows: `own_failures` says so of both adapters.
-/

set_option autoImplicit false

namespace SqlBuilder

open Sql (Compiled)

namespace Driver

variable {d : Driver} {sql : String} {values : List Value} {p : d.Prepared}

/-- A prepared statement that took values in order accepted each of them with its own tag. -/
theorem Took.prepares {start c : d.Connection} (took : d.Took sql start values p c) :
    d.Prepares sql (values.map fun value => (value, value.tag)) p := by
  induction took with
  | prepared => exact .prepared start
  | bound took value ok ih =>
    rw [List.map_append]
    exact ih.accepted _ _ value value.tag ok

section Restriction

variable {P : d.Connection → Prop} {keeps : d.Keeps P} {start : (d.restrict P keeps).Connection}

/-- What happens on some connections only happens on the driver. -/
theorem Took.of_restrict {p : (d.restrict P keeps).Prepared} {c : (d.restrict P keeps).Connection}
    (took : (d.restrict P keeps).Took sql start values p c) :
    d.Took sql start.1 values p c.1 := by
  induction took with
  | prepared => exact .prepared
  | bound took value ok ih => exact .bound ih value ok

/-- A failure on some connections only is one of the driver. -/
theorem FailsWith.of_restrict {compiled : Compiled} {e : Error}
    (fails : (d.restrict P keeps).FailsWith compiled start e) :
    d.FailsWith compiled start.1 e := by
  cases fails with
  | bind params took failed => exact .bind params took.of_restrict failed
  | execute took failed => exact .execute took.of_restrict failed

end Restriction

end Driver

namespace Adapter

variable {a : Adapter} {compiled : Compiled} {start : a.driver.Connection}

/-- The failure of the next execution. -/
def failure? : (a : Adapter) → a.driver.Connection → Option Failure
  | positional, c => (Connection.next c).1.failure
  | named, c => (Connection.next c).1.failure

/-- After values that were taken in order, the next is awaited. -/
theorem inOrder_of_took {sql : String} {values : List Value} {p : a.driver.Prepared}
    {c : a.driver.Connection} (took : a.driver.Took sql start values p c) :
    ∃ params, a.InOrder sql (values.map fun value => (value, value.tag)) params p := by
  cases a with
  | positional => exact ⟨_, Positional.inOrder took.prepares⟩
  | named => exact ⟨_, Named.inOrder took.prepares⟩

/-- Taking values does not reach the database. -/
theorem connection_of_took {sql : String} {values : List Value} {p : a.driver.Prepared}
    {c : a.driver.Connection} (took : a.driver.Took sql start values p c) : c = start := by
  induction took with
  | prepared => cases a <;> rfl
  | @bound values p c took value ok ih =>
    obtain ⟨params, inOrder⟩ := inOrder_of_took took
    exact (inOrder.apart c values.length value value.tag).1.trans ih

/-- A statement that an adapter asks for awaits each of its values. -/
theorem Asks.awaits (asks : a.Asks compiled) {position : Nat}
    (within : position < compiled.params.length) : a.Awaits compiled.sql position := by
  cases a with
  | positional => trivial
  | named =>
    have enough : compiled.params.length ≤ (Sql.toNamedBinds compiled.sql).2.length :=
      Sql.Compiled.Asks.enough asks
    rw [Sql.length_toNamedBinds] at enough
    exact Nat.lt_of_lt_of_le within enough

/-- Each value of a statement that an adapter asks for can be recorded. -/
theorem Asks.records (asks : a.Asks compiled) {value : Value} (member : value ∈ compiled.params) :
    ∃ v, a.record (value, value.tag) = .ok v := by
  cases a with
  | positional => exact Value.convert_tag (asks value member)
  | named => exact Named.Prepared.textual_tag (Sql.Compiled.Asks.bindable asks value member)

/-- A statement that an adapter asks for takes each value after those before it. -/
theorem Asks.takes (asks : a.Asks compiled) {before after : List Value} {value : Value}
    (params : compiled.params = before ++ value :: after) {p : a.driver.Prepared}
    {c : a.driver.Connection} (took : a.driver.Took compiled.sql start before p c) :
    (a.driver.bind p c before.length value value.tag).outcome = .ok () := by
  obtain ⟨_, inOrder⟩ := inOrder_of_took took
  have member : value ∈ compiled.params := by simp [params]
  have within : before.length < compiled.params.length := by simp [params]
  refine (inOrder.accepts c before.length value value.tag).2 ?_
  rw [List.length_map]
  exact ⟨rfl, asks.awaits within, asks.records member⟩

/-- An execution of a statement that an adapter asks for fails as the layer does. -/
theorem Asks.failure_of_execute (asks : a.Asks compiled) {p : a.driver.Prepared}
    {c : a.driver.Connection} (took : a.driver.Took compiled.sql start compiled.params p c)
    {e : Error} (failed : (a.driver.execute p c).outcome = .error e) :
    ∃ failure params, a.failure? c = some failure ∧ a.recorded compiled.params = .ok params ∧
      failure.through a.knows compiled.sql params = e := by
  cases a with
  | positional =>
    obtain ⟨text, recorded⟩ := Positional.records.of_prepares took.prepares
    obtain ⟨failure, fails, out⟩ := (Positional.Prepared.execute_error_iff e).1 failed
    rw [text] at out
    exact ⟨failure, _, fails, recorded, out⟩
  | named =>
    have filled : Named.Prepared.Filled compiled.sql _ p := Named.filled took.prepares
    -- The binds bear the names of the first placeholders, all of which the database finds.
    have known : Named.Prepared.bindsKnown p = true := by
      apply List.all_eq_true.2
      intro bind member
      have listed : bind.1 ∈ (Sql.toNamedBinds compiled.sql).2.take compiled.params.length := by
        have names := filled.names_binds
        rw [List.length_map] at names
        exact names ▸ List.mem_map_of_mem member
      rw [filled.namedSql]
      exact List.contains_iff_mem.2 (Sql.Compiled.Asks.known asks bind.1 listed)
    rcases (Named.Prepared.execute_error_iff e).1 failed with
      ⟨unknown, -⟩ | ⟨-, failure, fails, out⟩
    · rw [known] at unknown
      cases unknown
    · rw [filled.text] at out
      exact ⟨failure, _, fails, filled.recorded, out⟩

/-- A statement that an adapter asks for is kept from being executed by a failure of the layer
only. -/
theorem Asks.failure_of_failsWith (asks : a.Asks compiled) {e : Error}
    (fails : a.driver.FailsWith compiled start e) :
    ∃ failure params, a.failure? start = some failure ∧ a.recorded compiled.params = .ok params ∧
      failure.through a.knows compiled.sql params = e := by
  cases fails with
  | bind params took failed =>
    rw [asks.takes params took] at failed
    cases failed
  | execute took failed =>
    have same := connection_of_took took
    rw [same] at took failed
    exact asks.failure_of_execute took failed

end Adapter

/-! ## Failures that an adapter knows -/

/-- The replies that a connection has still to give fail, if at all, in some of the ways. -/
def Connection.FailsAs (kinds : FailureKind → Bool) (c : Connection) : Prop :=
  ∀ reply ∈ c.script, ∀ failure, reply.failure = some failure → kinds failure.kind = true

/-- The next reply fails in these ways only, and so do those after it. -/
theorem Connection.FailsAs.next {kinds : FailureKind → Bool} {c : Connection}
    (h : c.FailsAs kinds) :
    (∀ failure, c.next.1.failure = some failure → kinds failure.kind = true) ∧
      c.next.2.FailsAs kinds := by
  unfold Connection.next
  split
  · refine ⟨?_, h⟩
    intro failure none
    cases none
  · rename_i reply rest script
    refine ⟨h reply (script ▸ List.mem_cons_self), ?_⟩
    intro later hl
    exact h later (script ▸ List.mem_cons_of_mem _ hl)

/-- Exchanges of the positional driver keep it so. -/
theorem Positional.keeps_failsAs (kinds : FailureKind → Bool) :
    driver.Keeps (Connection.FailsAs kinds) where
  prepare _ _ h := h
  bind p c position value tag h := by
    simp only [driver, Prepared.bind]
    split
    · exact h
    · split <;> exact h
  execute p c h := by
    have after := h.next.2
    simp only [driver, Prepared.execute]
    split <;> exact after
  fetch p c h := by
    simp only [driver, Prepared.fetch]
    split <;> exact h
  close p c h := by
    simp only [driver, Prepared.close]
    split <;> exact h

/-- Exchanges of the driver with named binds keep it so. -/
theorem Named.keeps_failsAs (kinds : FailureKind → Bool) :
    driver.Keeps (Connection.FailsAs kinds) where
  prepare _ _ h := h
  bind p c position value tag h := by
    simp only [driver, Prepared.bind]
    split
    · split
      · split <;> exact h
      · exact h
    · exact h
  execute p c h := by
    have after := h.next.2
    simp only [driver, Prepared.execute]
    split
    · exact h
    · split
      · exact after
      · dsimp only
        split <;> exact after
  fetch p c h := by
    simp only [driver, Prepared.fetch]
    split <;> exact h
  close p c h := by
    simp only [driver, Prepared.close]
    split <;> exact h

namespace Adapter

/-- Whether a failure of some kind comes out in this library's terms. -/
def owns (a : Adapter) (kind : FailureKind) : Bool :=
  a.knows kind || kind == .reported

/-- The layer fails, if at all, in ways that come out in this library's terms. -/
def Knows : (a : Adapter) → a.driver.Connection → Prop
  | positional => Connection.FailsAs positional.owns
  | named => Connection.FailsAs named.owns

/-- Exchanges keep it so. -/
theorem keeps_knows : (a : Adapter) → a.driver.Keeps a.Knows
  | positional => Positional.keeps_failsAs positional.owns
  | named => Named.keeps_failsAs named.owns

/-- The next failure is one of those. -/
theorem knows_failure? {a : Adapter} {start : a.driver.Connection} (knows : a.Knows start)
    {failure : Failure} (fails : a.failure? start = some failure) :
    a.owns failure.kind = true := by
  cases a with
  | positional =>
    have replies : Connection.FailsAs positional.owns start := knows
    exact replies.next.1 failure fails
  | named =>
    have replies : Connection.FailsAs named.owns start := knows
    exact replies.next.1 failure fails

/-- The driver of an adapter whose layer fails in the ways that it knows. -/
def known (a : Adapter) : Driver :=
  a.driver.restrict a.Knows a.keeps_knows

/-- Where the rows of an adapter come from. -/
def rows : (a : Adapter) → a.driver.RowSource
  | positional => Positional.rowSource
  | named => Named.rowSource

/-- With a statement that it asks for, an adapter fails in this library's terms if its layer fails
in the ways that it knows. -/
theorem own_failures {a : Adapter} {compiled : Compiled} (asks : a.Asks compiled)
    {start : a.driver.Connection} (knows : a.Knows start) {e : Error}
    (fails : a.driver.FailsWith compiled start e) : e.isDriverError = true := by
  obtain ⟨failure, params, failing, -, rfl⟩ := asks.failure_of_failsWith fails
  rw [Failure.isDriverError_through]
  exact knows_failure? knows failing

end Adapter

end SqlBuilder
