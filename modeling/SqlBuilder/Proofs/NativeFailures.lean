import SqlBuilder.Driver.Named
import SqlBuilder.Driver.Positional
import SqlBuilder.Statement.Basic

/-!
# Failures of the database layer

Each adapter knows one family of failures. A failure of the family comes out in this library's
terms, with the text of the statement and the values bound so far; any other failure of the layer
comes out as it is, and only one that the layer itself reports in this library's terms counts as a
failure of the database then. This holds for every prepared statement, whatever was bound, executed,
fetched and closed before. A name that the database does not find in the text is refused before the
layer is reached, and that refusal is no failure of the database either.
-/

set_option autoImplicit false

namespace SqlBuilder

/-- What becomes of a failure when an adapter knows a family of failures. -/
def Failure.through (failure : Failure) (known : FailureKind → Bool) (sql : String)
    (params : List Value) : Error :=
  if known failure.kind then .rejected failure sql params else .native failure

/-- A failure counts as one of the database if it is of the known family, or if the layer reports it
in this library's own terms. -/
theorem Failure.isDriverError_through (failure : Failure) (known : FailureKind → Bool)
    (sql : String) (params : List Value) :
    (failure.through known sql params).isDriverError =
      (known failure.kind || failure.kind == .reported) := by
  unfold through
  split
  · rename_i known
    rw [known]
    rfl
  · rename_i unknown
    rw [Bool.eq_false_iff.2 unknown]
    rfl

/-- The prepared statements for a text, with the values that were accepted, in order, each with its
tag: anything may have been executed, fetched, refused or closed in between. -/
inductive Driver.Prepares (d : Driver) (sql : String) : List (Value × Tag) → d.Prepared → Prop
  /-- Nothing was bound. -/
  | prepared (c : d.Connection) : Prepares d sql [] (d.prepare sql c).1
  /-- One more value was accepted. -/
  | accepted {given : List (Value × Tag)} {p : d.Prepared} (h : Prepares d sql given p)
    (c : d.Connection) (position : Int) (value : Value) (tag : Tag)
    (ok : (d.bind p c position value tag).outcome = .ok ()) :
    Prepares d sql (given ++ [(value, tag)]) (d.bind p c position value tag).prepared
  /-- A value was refused. -/
  | refused {given : List (Value × Tag)} {p : d.Prepared} (h : Prepares d sql given p)
    (c : d.Connection) (position : Int) (value : Value) (tag : Tag) {e : Error}
    (failed : (d.bind p c position value tag).outcome = .error e) :
    Prepares d sql given (d.bind p c position value tag).prepared
  /-- The statement was executed, successfully or not. -/
  | executed {given : List (Value × Tag)} {p : d.Prepared} (h : Prepares d sql given p)
    (c : d.Connection) : Prepares d sql given (d.execute p c).prepared
  /-- A row was fetched, successfully or not. -/
  | fetched {given : List (Value × Tag)} {p : d.Prepared} (h : Prepares d sql given p)
    (c : d.Connection) : Prepares d sql given (d.fetch p c).prepared
  /-- The statement was closed. -/
  | closed {given : List (Value × Tag)} {p : d.Prepared} (h : Prepares d sql given p)
    (c : d.Connection) : Prepares d sql given (d.close p c).1

namespace Driver

/-- A driver keeps the text of a prepared statement and records what becomes of the values that it
accepts. -/
structure Records (d : Driver) (text : d.Prepared → String) (params : d.Prepared → List Value)
    (record : Value × Tag → Except Error Value) : Prop where
  /-- Nothing is recorded at first. -/
  prepare : ∀ sql c, text (d.prepare sql c).1 = sql ∧ params (d.prepare sql c).1 = []
  /-- An accepted value is recorded. -/
  accept : ∀ p c position value tag, (d.bind p c position value tag).outcome = .ok () →
    ∃ v, record (value, tag) = .ok v ∧ text (d.bind p c position value tag).prepared = text p ∧
      params (d.bind p c position value tag).prepared = params p ++ [v]
  /-- A refused value leaves no trace. -/
  refuse : ∀ p c position value tag e, (d.bind p c position value tag).outcome = .error e →
    (d.bind p c position value tag).prepared = p
  /-- Executing changes nothing. -/
  execute : ∀ p c, text (d.execute p c).prepared = text p ∧
    params (d.execute p c).prepared = params p
  /-- Fetching changes nothing. -/
  fetch : ∀ p c, text (d.fetch p c).prepared = text p ∧ params (d.fetch p c).prepared = params p
  /-- Closing changes nothing. -/
  close : ∀ p c, text (d.close p c).1 = text p ∧ params (d.close p c).1 = params p

/-- Whatever happened to a prepared statement, it has its text and the values that it accepted. -/
theorem Records.of_prepares {d : Driver} {text : d.Prepared → String}
    {params : d.Prepared → List Value} {record : Value × Tag → Except Error Value}
    (records : d.Records text params record) {sql : String} {given : List (Value × Tag)}
    {p : d.Prepared} (h : d.Prepares sql given p) :
    text p = sql ∧ given.mapM record = .ok (params p) := by
  induction h with
  | prepared c =>
    obtain ⟨texts, none⟩ := records.prepare sql c
    rw [texts, none]
    exact ⟨rfl, rfl⟩
  | accepted h c position value tag ok ih =>
    obtain ⟨v, recorded, texts, more⟩ := records.accept _ c position value tag ok
    rw [texts, more, List.mapM_append, ih.2]
    refine ⟨ih.1, ?_⟩
    simp [recorded]
    rfl
  | refused h c position value tag failed ih =>
    rw [records.refuse _ c position value tag _ failed]
    exact ih
  | executed h c ih =>
    rw [(records.execute _ c).1, (records.execute _ c).2]
    exact ih
  | fetched h c ih =>
    rw [(records.fetch _ c).1, (records.fetch _ c).2]
    exact ih
  | closed h c ih =>
    rw [(records.close _ c).1, (records.close _ c).2]
    exact ih

end Driver

/-- A row that is shown fails as the fetching of its values does. -/
theorem mapped_eq_error_iff {α β : Type} {outcome : Except Failure α} {f : α → β}
    {g : Failure → Error} {e : Error} :
    (outcome.map f).mapError g = .error e ↔
      ∃ failure, outcome = .error failure ∧ g failure = e := by
  cases outcome with
  | error failure =>
    constructor
    · intro h
      exact ⟨failure, rfl, Except.error.inj h⟩
    · rintro ⟨known, same, rfl⟩
      rw [Except.error.inj same]
      rfl
  | ok a =>
    constructor
    · intro h
      cases h
    · rintro ⟨_, h, -⟩
      cases h

/-- Fetching fails exactly when the layer fails. -/
theorem Cursor.fetch_error_iff (cursor : Cursor) (failure : Failure) :
    cursor.fetch.1 = .error failure ↔ cursor.failure? = some failure := by
  unfold fetch
  cases cursor.failure? with
  | some known => simp
  | none => cases cursor.reply.rows[cursor.fetched]? <;> simp

/-! ## The positional driver -/

namespace Positional

/-- The positional driver records values in converted form. -/
theorem records : driver.Records Prepared.sql Prepared.params
    fun bound => Value.convert bound.2 bound.1 where
  prepare sql c := ⟨rfl, rfl⟩
  accept p c position value tag ok := by
    simp only [driver, Prepared.bind] at ok ⊢
    split at ok
    · cases ok
    · rename_i inOrder
      rw [if_neg inOrder]
      cases converted : Value.convert tag value with
      | error e => simp [converted] at ok
      | ok v => exact ⟨v, rfl, rfl, rfl⟩
  refuse p c position value tag e failed := by
    simp only [driver, Prepared.bind] at failed ⊢
    split
    · rfl
    · rename_i inOrder
      rw [if_neg inOrder] at failed
      cases converted : Value.convert tag value with
      | error e => rfl
      | ok v => simp [converted] at failed
  execute p c := by
    simp only [driver, Prepared.execute]
    split <;> exact ⟨rfl, rfl⟩
  fetch p c := by
    simp only [driver, Prepared.fetch]
    split <;> exact ⟨rfl, rfl⟩
  close p c := by
    simp only [driver, Prepared.close]
    split <;> exact ⟨rfl, rfl⟩

namespace Prepared

variable {p : Prepared} {c : Connection}

/-- Binding by position, a failure goes through unless it is one of the database. -/
theorem errorOf_eq (failure : Failure) :
    p.errorOf failure = failure.through FailureKind.isDatabase p.sql p.params := rfl

/-- Executing fails exactly when the layer fails. -/
theorem execute_error_iff (e : Error) : (p.execute c).outcome = .error e ↔
    ∃ failure, c.next.1.failure = some failure ∧
      failure.through FailureKind.isDatabase p.sql p.params = e := by
  unfold execute
  dsimp only
  cases c.next.1.failure with
  | none => simp
  | some failure => simp [errorOf_eq]

/-- Fetching fails exactly when the layer fails. -/
theorem fetch_error_iff (e : Error) : (p.fetch c).outcome = .error e ↔
    ∃ cursor failure, p.cursor = some cursor ∧ cursor.failure? = some failure ∧
      failure.through FailureKind.isDatabase p.sql p.params = e := by
  unfold fetch
  cases p.cursor with
  | none => simp
  | some cursor => simp [mapped_eq_error_iff, cursor.fetch_error_iff, errorOf_eq]

end Prepared

end Positional

/-! ## The driver with named binds -/

namespace Named

/-- The driver with named binds records values that are bound as text in the form of texts. -/
theorem records : driver.Records Prepared.sql Prepared.params
    fun bound => Prepared.textual bound.2 bound.1 where
  prepare sql c := ⟨rfl, rfl⟩
  accept p c position value tag ok := by
    simp only [driver, Prepared.bind] at ok ⊢
    split at ok
    · rename_i name awaited
      split at ok
      · rename_i inOrder
        rw [if_pos inOrder]
        cases shown : Prepared.textual tag value with
        | error e => simp [shown] at ok
        | ok v => exact ⟨v, rfl, rfl, rfl⟩
      · cases ok
    · cases ok
  refuse p c position value tag e failed := by
    simp only [driver, Prepared.bind] at failed ⊢
    split
    · rename_i name awaited
      split
      · rename_i inOrder
        cases shown : Prepared.textual tag value with
        | error e => rfl
        | ok v => simp [awaited, inOrder, shown] at failed
      · rfl
    · rfl
  execute p c := by
    simp only [driver, Prepared.execute]
    split
    · exact ⟨rfl, rfl⟩
    · split
      · exact ⟨rfl, rfl⟩
      · simp only [Prepared.accept]
        split <;> exact ⟨rfl, rfl⟩
  fetch p c := by
    simp only [driver, Prepared.fetch]
    split <;> exact ⟨rfl, rfl⟩
  close p c := by
    simp only [driver, Prepared.close]
    split <;> exact ⟨rfl, rfl⟩

namespace Prepared

variable {p : Prepared} {c : Connection}

/-- Binding by name, a failure goes through unless it is one of the toolkit. -/
theorem errorOf_eq (failure : Failure) :
    p.errorOf failure = failure.through (fun kind => kind = .toolkit) p.sql p.params := by
  simp [errorOf, Failure.through]

/-- Executing fails when a bound name is not in the text, and otherwise exactly when the layer
fails. -/
theorem execute_error_iff (e : Error) : (p.execute c).outcome = .error e ↔
    p.bindsKnown = false ∧ .unknownBind = e ∨
      p.bindsKnown = true ∧ ∃ failure, c.next.1.failure = some failure ∧
        failure.through (fun kind => kind = .toolkit) p.sql p.params = e := by
  unfold execute
  cases p.bindsKnown with
  | false => simp
  | true =>
    cases failing : c.next.1.failure with
    | none => simp [failing]
    | some failure => simp [failing, errorOf_eq]

/-- Fetching fails when the layer fails, and when a row is short of a column. -/
theorem fetch_error_iff (e : Error) : (p.fetch c).outcome = .error e ↔
    ∃ cursor, p.rows = some cursor ∧
      ((∃ failure, cursor.failure? = some failure ∧
          failure.through (fun kind => kind = .toolkit) p.sql p.params = e) ∨
        ∃ values, cursor.fetch.1 = .ok (some values) ∧
          complete p.columns (Row.zip p.columns values) = .error e) := by
  unfold fetch
  cases p.rows with
  | none => simp
  | some cursor =>
    simp only [Option.some.injEq, exists_eq_left']
    simp only [← cursor.fetch_error_iff]
    cases cursor.fetch.1 with
    | error failure => simp [errorOf_eq]
    | ok found =>
      cases found with
      | none => simp
      | some values =>
        cases completed : complete p.columns (Row.zip p.columns values) <;>
          simp [completed, Except.map]

end Prepared

end Named

/-! ## Both adapters -/

/-- What comes out of an adapter is a failure of the database exactly for one family of failures and
for those that the layer reports in this library's own terms; the failure is then given with the
text of the statement and the values that it accepted. Everything else comes out as it is. -/
theorem native_failures_by_family (sql : String) (given : List (Value × Tag)) :
    (∀ p : Positional.Prepared, Positional.driver.Prepares sql given p →
      ∃ params, given.mapM (fun bound => Value.convert bound.2 bound.1) = .ok params ∧
        ∀ c e,
          ((p.execute c).outcome = .error e ↔ ∃ failure, c.next.1.failure = some failure ∧
            failure.through FailureKind.isDatabase sql params = e) ∧
          ((p.fetch c).outcome = .error e ↔ ∃ cursor failure, p.cursor = some cursor ∧
            cursor.failure? = some failure ∧
              failure.through FailureKind.isDatabase sql params = e)) ∧
    (∀ p : Named.Prepared, Named.driver.Prepares sql given p →
      ∃ params, given.mapM (fun bound => Named.Prepared.textual bound.2 bound.1) = .ok params ∧
        ∀ c e,
          ((p.execute c).outcome = .error e ↔
            p.bindsKnown = false ∧ .unknownBind = e ∨
              p.bindsKnown = true ∧ ∃ failure, c.next.1.failure = some failure ∧
                failure.through (fun kind => kind = .toolkit) sql params = e) ∧
          ((p.fetch c).outcome = .error e ↔ ∃ cursor, p.rows = some cursor ∧
            ((∃ failure, cursor.failure? = some failure ∧
                failure.through (fun kind => kind = .toolkit) sql params = e) ∨
              ∃ values, cursor.fetch.1 = .ok (some values) ∧
                Named.Prepared.complete p.columns (Row.zip p.columns values) = .error e))) := by
  constructor
  · intro p prepares
    obtain ⟨rfl, recorded⟩ := Positional.records.of_prepares prepares
    exact ⟨_, recorded, fun c e => ⟨p.execute_error_iff e, p.fetch_error_iff e⟩⟩
  · intro p prepares
    obtain ⟨rfl, recorded⟩ := Named.records.of_prepares prepares
    exact ⟨_, recorded, fun c e => ⟨p.execute_error_iff e, p.fetch_error_iff e⟩⟩

/-- A violated constraint comes out in this library's terms. -/
theorem native_failures_by_family_constraint :
    let p : Positional.Prepared := { sql := "INSERT INTO t (a) VALUES (?)", params := [.int 1] }
    Positional.driver.Prepares "INSERT INTO t (a) VALUES (?)" [(.bool true, .boolean)] p ∧
      (p.execute { script := [{ failure := some ⟨.integrity, "UNIQUE"⟩ }] }).outcome =
        .error (.rejected ⟨.integrity, "UNIQUE"⟩ "INSERT INTO t (a) VALUES (?)" [.int 1]) := by
  have prepares : Positional.driver.Prepares "INSERT INTO t (a) VALUES (?)"
      [(.bool true, .boolean)]
      ({ sql := "INSERT INTO t (a) VALUES (?)", params := [.int 1] } : Positional.Prepared) :=
    .accepted (.prepared (d := Positional.driver) ⟨[], .null⟩) ⟨[], .null⟩ 0 (.bool true) .boolean
      rfl
  refine ⟨prepares, ?_⟩
  obtain ⟨params, recorded, out⟩ := (native_failures_by_family _ _).1 _ prepares
  obtain rfl : [.int 1] = params := Except.ok.inj recorded
  exact (out _ _).1.2 ⟨_, rfl, rfl⟩

/-- A number that does not fit escapes the positional driver, and a bind that is not found in the
text escapes the driver with named binds: neither is a failure of the database in this library's
terms. -/
theorem native_failures_escape :
    (∃ (st : Statement Positional.driver) (failure : Failure),
      st.get.1 = .error (.native failure) ∧ (Error.native failure).isDriverError = false) ∧
    ∃ p : Named.Prepared, Named.driver.Prepares "SELECT a?" [(.int 1, .integer)] p ∧
      (p.execute { script := [] }).outcome = .error .unknownBind ∧
        Error.unknownBind.isDriverError = false := by
  constructor
  · let table : Source := { sql := .text "t", table := .text "t", aliasName := .text "t" }
    let overflow : Failure := ⟨.overflow, "Python int too large to convert to SQLite INTEGER"⟩
    exact ⟨{ state := { source := some table }
             session := some { connection := { script := [{ failure := some overflow }] } } },
      overflow, rfl, rfl⟩
  · have prepared : Named.driver.Prepares "SELECT a?" [] (Named.Prepared.ofSql "SELECT a?") :=
      .prepared (d := Named.driver) ⟨[], .null⟩
    exact ⟨_, prepared.accepted ⟨[], .null⟩ 0 (.int 1) .integer rfl, rfl, rfl⟩

end SqlBuilder
