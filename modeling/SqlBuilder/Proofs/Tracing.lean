import Mathlib.Data.List.Forall2
import SqlBuilder.Execution.RowIterator
import SqlBuilder.Proofs.Replies

/-!
# Traced drivers

A traced driver does what another driver does, numbers its prepared statements and reports each use
of one with its number. So the journal of a session tells what became of every prepared statement.
This file says which uses one exchange makes: running a statement, fetching one row, and reading all
that are left.
-/

set_option autoImplicit false

namespace SqlBuilder

open Sql (Compiled)

/-- A use of a prepared statement. -/
inductive Use (d : Driver) where
  /-- It was made from a text. -/
  | prepare (sql : String)
  /-- A value was bound. -/
  | bind (position : Int) (value : Value) (tag : Tag)
  /-- It was executed on a connection, as it was before. -/
  | execute (found : d.Connection)
  /-- A row was asked for. -/
  | fetch
  /-- It was closed. -/
  | close

/-- Whether a use closes the statement. -/
def Use.isClose {d : Driver} : Use d → Bool
  | close => true
  | _ => false

/-- What a traced driver reports. -/
structure Traced (d : Driver) where
  /-- The number of the prepared statement. -/
  number : Nat
  /-- The use that was made of it. -/
  use : Use d
  /-- What the driver itself reports. -/
  reports : List d.Event

/-- A driver that numbers its prepared statements and reports each use of one. -/
def Driver.traced (d : Driver) : Driver where
  Connection := d.Connection × Nat
  Prepared := d.Prepared × Nat
  Event := Traced d
  prepare sql c :=
    let (p, connection, events) := d.prepare sql c.1
    ((p, c.2), (connection, c.2 + 1), [⟨c.2, .prepare sql, events⟩])
  bind p c position value tag :=
    let contact := d.bind p.1 c.1 position value tag
    ⟨contact.outcome, (contact.prepared, p.2), (contact.connection, c.2),
      [⟨p.2, .bind position value tag, contact.events⟩]⟩
  execute p c :=
    let contact := d.execute p.1 c.1
    ⟨contact.outcome, (contact.prepared, p.2), (contact.connection, c.2),
      [⟨p.2, .execute c.1, contact.events⟩]⟩
  columns p := d.columns p.1
  fetch p c :=
    let contact := d.fetch p.1 c.1
    ⟨contact.outcome, (contact.prepared, p.2), (contact.connection, c.2),
      [⟨p.2, .fetch, contact.events⟩]⟩
  rowCount p := d.rowCount p.1
  close p c :=
    let (closed, connection, events) := d.close p.1 c.1
    ((closed, p.2), (connection, c.2), [⟨p.2, .close, events⟩])
  lastInsertId c := d.lastInsertId c.1
  remaining p c := d.remaining p.1 c.1
  remaining_fetch p c row h := d.remaining_fetch p.1 c.1 row h

namespace Driver

/-- A prepared statement that took some values in order, each with its own tag, since its text was
prepared on a connection, and the connection that it left. -/
inductive Took (d : Driver) (sql : String) (start : d.Connection) :
    List Value → d.Prepared → d.Connection → Prop
  /-- It was just prepared. -/
  | prepared : Took d sql start [] (d.prepare sql start).1 (d.prepare sql start).2.1
  /-- It took one more value. -/
  | bound {values : List Value} {p : d.Prepared} {c : d.Connection}
    (h : Took d sql start values p c) (value : Value)
    (ok : (d.bind p c values.length value value.tag).outcome = .ok ()) :
    Took d sql start (values ++ [value]) (d.bind p c values.length value value.tag).prepared
      (d.bind p c values.length value value.tag).connection

/-- An error of the driver that keeps a compiled statement from being executed. -/
inductive FailsWith (d : Driver) (compiled : Compiled) (start : d.Connection) (e : Error) : Prop
  /-- It refuses a value after those before it. -/
  | bind {before after : List Value} {value : Value} {p : d.Prepared} {c : d.Connection}
    (params : compiled.params = before ++ value :: after)
    (took : d.Took compiled.sql start before p c)
    (failed : (d.bind p c before.length value value.tag).outcome = .error e) :
    FailsWith d compiled start e
  /-- It took all values, and the execution fails. -/
  | execute {p : d.Prepared} {c : d.Connection}
    (took : d.Took compiled.sql start compiled.params p c)
    (failed : (d.execute p c).outcome = .error e) : FailsWith d compiled start e

/-- A compiled statement that took all its values was executed on a connection. -/
inductive Executes (d : Driver) (compiled : Compiled) (start : d.Connection) :
    d.Connection → d.Prepared → Prop
  /-- The execution succeeded. -/
  | executed {p : d.Prepared} {c : d.Connection}
    (took : d.Took compiled.sql start compiled.params p c)
    (ok : (d.execute p c).outcome = .ok ()) : Executes d compiled start c (d.execute p c).prepared

/-- Why a compiled statement does not come to be read. -/
inductive Refuses (d : Driver) (compiled : Compiled) (start : d.Connection) : Error → Prop
  /-- The driver fails before it is executed. -/
  | fails {e : Error} (h : d.FailsWith compiled start e) : Refuses d compiled start e
  /-- It was executed, and some columns of the result have the same name. -/
  | repeated {found : d.Connection} {p : d.Prepared} {name : String} {names : List String}
    (executes : d.Executes compiled start found p)
    (twice : repeatedNames (d.columns p) = name :: names) :
    Refuses d compiled start (.duplicateColumns (name :: names))

end Driver

variable {d : Driver}

namespace Session

/-! ## Uses in a journal -/

/-- The use that a traced driver reports, with the number of the prepared statement. -/
def reported (traced : d.traced.Event) : Nat × Use d :=
  (Traced.number traced, Traced.use traced)

/-- The use that an entry reports. -/
def useOf : Entry d.traced.Event → Option (Nat × Use d)
  | .log _ _ => none
  | .report traced => some (reported traced)

/-- All uses of prepared statements, oldest first. -/
def uses (s : Session d.traced) : List (Nat × Use d) :=
  s.journal.filterMap useOf

/-- The uses of one prepared statement. -/
def usesOf (s : Session d.traced) (number : Nat) : List (Use d) :=
  s.uses.filterMap fun used => if used.1 = number then some used.2 else none

/-- How many statements were prepared. -/
def count (s : Session d.traced) : Nat :=
  s.connection.2

/-- Between two moments some uses are made of one prepared statement, and none is prepared. -/
structure Served (number : Nat) (made : List (Use d)) (s s' : Session d.traced) : Prop where
  /-- The uses are noted. -/
  uses : s'.uses = s.uses ++ made.map (Prod.mk number)
  /-- No statement is prepared. -/
  count : s'.count = s.count

/-- Nothing happens between a moment and itself. -/
theorem Served.refl (number : Nat) (s : Session d.traced) : Served number [] s s :=
  ⟨(List.append_nil _).symm, rfl⟩

/-- Uses one after another. -/
theorem Served.trans {number : Nat} {made more : List (Use d)} {s s' s'' : Session d.traced}
    (h : Served number made s s') (h' : Served number more s' s'') :
    Served number (made ++ more) s s'' := by
  refine ⟨?_, h'.count.trans h.count⟩
  rw [h'.uses, h.uses, List.append_assoc, List.map_append]

/-- A log record is no use. -/
theorem uses_log (s : Session d.traced) (level : LogLevel) (message : String) :
    (s.log level message).uses = s.uses := by
  rw [uses, journal_log, List.filterMap_append]
  exact List.append_nil _

/-- What the driver reports is noted. -/
theorem uses_reach (s : Session d.traced) (connection : d.traced.Connection)
    (events : List d.traced.Event) :
    (s.reach connection events).uses =
      s.uses ++ events.map reported := by
  rw [uses, journal_reach, List.filterMap_append, List.filterMap_map, ← List.filterMap_eq_map]
  rfl

/-- Preparing a text gives a statement with the next number. -/
theorem prepare_traced (s : Session d.traced) (sql : String) :
    (s.prepare sql).1.2 = s.count ∧ (s.prepare sql).2.count = s.count + 1 ∧
      (s.prepare sql).2.uses = s.uses ++ [(s.count, .prepare sql)] :=
  ⟨rfl, rfl, uses_reach s _ _⟩

/-- Binding a value is a use. -/
theorem served_bind (s : Session d.traced) (p : d.traced.Prepared) (position : Int) (value : Value)
    (tag : Tag) : Served p.2 [.bind position value tag] s (s.bind p position value tag).2.2 :=
  ⟨uses_reach s _ _, rfl⟩

/-- Executing is a use. -/
theorem served_execute (s : Session d.traced) (p : d.traced.Prepared) :
    Served p.2 [.execute s.connection.1] s (s.execute p).2.2 :=
  ⟨uses_reach s _ _, rfl⟩

/-- Asking for a row is a use. -/
theorem served_fetch (s : Session d.traced) (p : d.traced.Prepared) :
    Served p.2 [.fetch] s (s.fetch p).2.2 :=
  ⟨uses_reach s _ _, rfl⟩

/-- Closing is a use. -/
theorem served_close (s : Session d.traced) (p : d.traced.Prepared) :
    Served p.2 [.close] s (s.close p).2 :=
  ⟨uses_reach s _ _, rfl⟩

/-! ## Running a statement -/

/-- The uses that bind values to the placeholders from a position on. -/
def bindings : Nat → List Value → List (Use d)
  | _, [] => []
  | position, value :: rest =>
    .bind position value value.tag :: bindings (position + 1) rest

/-- The uses that open a compiled statement: it is prepared, all its values are bound in order, and
it is executed on a connection. -/
def opening (compiled : Compiled) (found : d.Connection) : List (Use d) :=
  .prepare compiled.sql :: (bindings 0 compiled.params ++ [.execute found])

variable (rowsOf : d.RowSource)

/-- Binding the next value to a prepared statement that took some before. -/
theorem bind_traced {s s' : Session d.traced} {p p' : d.traced.Prepared} {sql : String}
    {start : d.Connection} {before : List Value} (took : d.Took sql start before p.1 s.connection.1)
    {value : Value} {outcome : Except Error Unit}
    (h : s.bind p before.length value value.tag = (outcome, p', s')) :
    p'.2 = p.2 ∧ rowsOf.coming p'.1 = rowsOf.coming p.1 ∧
      (d.bind p.1 s.connection.1 before.length value value.tag).outcome = outcome ∧
      (outcome = .ok () → d.Took sql start (before ++ [value]) p'.1 s'.connection.1) := by
  have number : p'.2 = p.2 := (congrArg (fun r => r.2.1.2) h).symm
  have prepared : p'.1 = (d.bind p.1 s.connection.1 before.length value value.tag).prepared :=
    (congrArg (fun r => r.2.1.1) h).symm
  have connection :
      s'.connection.1 = (d.bind p.1 s.connection.1 before.length value value.tag).connection :=
    (congrArg (fun r => r.2.2.connection.1) h).symm
  have here : (d.bind p.1 s.connection.1 before.length value value.tag).outcome = outcome :=
    congrArg Prod.fst h
  have coming := rowsOf.bound p.1 s.connection.1 before.length value value.tag
  refine ⟨number, prepared ▸ coming, here, fun ok => ?_⟩
  rw [prepared, connection]
  exact took.bound value (here.trans ok)

/-- Binding values: either all are bound, or the driver fails after some. -/
theorem bindFrom_traced (s : Session d.traced) (p : d.traced.Prepared) {sql : String}
    {start : d.Connection} {before : List Value}
    (took : d.Took sql start before p.1 s.connection.1) (values : List Value)
    {outcome : Except Error Unit} {p' : d.traced.Prepared} {s' : Session d.traced}
    (h : s.bindFrom p before.length values = (outcome, p', s')) :
    p'.2 = p.2 ∧ rowsOf.coming p'.1 = rowsOf.coming p.1 ∧ ∃ made, Served p.2 made s s' ∧
      (outcome = .ok () ∧ made = bindings before.length values ∧
          d.Took sql start (before ++ values) p'.1 s'.connection.1 ∨
        made <+: bindings before.length values ∧
          ∃ e, outcome = .error e ∧ d.FailsWith ⟨sql, before ++ values⟩ start e) := by
  -- What was taken already grows with each value, so that its length is the next position.
  induction values generalizing s p before with
  | nil =>
    obtain ⟨rfl, rfl, rfl⟩ : Except.ok () = outcome ∧ p = p' ∧ s = s' := by
      simpa [bindFrom] using h
    rw [List.append_nil]
    exact ⟨rfl, rfl, [], .refl _ s, .inl ⟨rfl, rfl, took⟩⟩
  | cons value rest ih =>
    have served := served_bind s p before.length value value.tag
    rw [bindFrom] at h
    cases bound : s.bind p before.length value value.tag with
    | mk first after =>
      obtain ⟨p₁, s₁⟩ := after
      obtain ⟨number, coming, here, takes⟩ := bind_traced rowsOf took bound
      rw [bound] at served h
      cases first with
      | error e =>
        obtain ⟨rfl, rfl, rfl⟩ : Except.error e = outcome ∧ p₁ = p' ∧ s₁ = s' := by
          simpa using h
        refine ⟨number, coming, _, served,
          .inr ⟨⟨bindings (before.length + 1) rest, rfl⟩, e, rfl, ?_⟩⟩
        exact .bind rfl took here
      | ok done =>
        have length : (before ++ [value]).length = before.length + 1 := List.length_append
        have whole : before ++ [value] ++ rest = before ++ value :: rest := List.append_assoc _ _ _
        rw [← length] at h
        obtain ⟨same, kept, made, later, result⟩ := ih s₁ p₁ (takes rfl) h
        rw [length, whole] at result
        rw [number] at same later
        refine ⟨same, kept.trans coming, _, served.trans later, ?_⟩
        rcases result with ⟨all, rfl, took⟩ | ⟨some, failed⟩
        · exact .inl ⟨all, rfl, took⟩
        · exact .inr ⟨List.cons_prefix_cons.2 ⟨rfl, some⟩, failed⟩

/-- Binding the values of a compiled statement and executing it: either all of it is done and the
rows of the reply are there, or the driver fails on the way. -/
theorem launch_traced (s : Session d.traced) (p : d.traced.Prepared) {compiled : Compiled}
    {start : d.Connection} (took : d.Took compiled.sql start [] p.1 s.connection.1)
    (read : rowsOf.coming p.1 = []) {outcome : Except Error Unit} {p' : d.traced.Prepared}
    {s' : Session d.traced} (h : s.launch p compiled.params = (outcome, p', s')) :
    p'.2 = p.2 ∧ ∃ found made, Served p.2 made s s' ∧
      made <+: bindings 0 compiled.params ++ [.execute found] ∧
      (outcome = .ok () ∧ made = bindings 0 compiled.params ++ [.execute found] ∧
          d.Executes compiled start found p'.1 ∧
          rowsOf.coming p'.1 = rowsOf.rows (rowsOf.reply found) ∨
        ∃ e, outcome = .error e ∧ d.FailsWith compiled start e) := by
  rw [launch] at h
  cases bound : s.bindFrom p 0 compiled.params with
  | mk first after =>
    obtain ⟨p₁, s₁⟩ := after
    obtain ⟨number, coming, made, served, result⟩ :=
      bindFrom_traced rowsOf s p took compiled.params bound
    rw [bound] at h
    rcases result with ⟨rfl, rfl, took⟩ | ⟨some, e, rfl, fails⟩
    · have executes := served_execute s₁ p₁
      have executed (done : (d.execute p₁.1 s₁.connection.1).outcome = .ok ()) :=
        rowsOf.executed (coming.trans read) done
      have ran : s₁.execute p₁ = (outcome, p', s') := h
      have same : (d.execute p₁.1 s₁.connection.1).outcome = outcome := congrArg Prod.fst ran
      have prepared : (d.execute p₁.1 s₁.connection.1).prepared = p'.1 :=
        congrArg (fun r => r.2.1.1) ran
      have kept : p₁.2 = p'.2 := congrArg (fun r => r.2.1.2) ran
      rw [ran, number] at executes
      refine ⟨kept.symm.trans number, s₁.connection.1, _, served.trans executes,
        List.prefix_rfl, ?_⟩
      cases outcome with
      | error e => exact .inr ⟨e, rfl, .execute took same⟩
      | ok done =>
        rw [← prepared]
        exact .inl ⟨rfl, rfl, .executed took same, executed same⟩
    · obtain ⟨rfl, rfl, rfl⟩ : Except.error e = outcome ∧ p₁ = p' ∧ s₁ = s' := by
        simpa using h
      refine ⟨number, s.connection.1, made, served, ?_, .inr ⟨e, rfl, fails⟩⟩
      exact some.trans (List.prefix_append _ _)

/-- What running a compiled statement gives, on a given session. -/
inductive Ran (s : Session d.traced) (compiled : Compiled) :
    Except Error d.traced.Prepared × Session d.traced → Prop
  /-- A statement that was executed, with the rows of one reply to give. -/
  | opened {p : d.traced.Prepared} {s' : Session d.traced} {found : d.Connection}
    (number : p.2 = s.count) (count : s'.count = s.count + 1)
    (uses : s'.uses = s.uses ++ (opening compiled found).map (Prod.mk s.count))
    (executes : d.Executes compiled s.connection.1 found p.1)
    (rows : rowsOf.coming p.1 = rowsOf.rows (rowsOf.reply found)) : Ran s compiled (.ok p, s')
  /-- An error of the driver or of repeated columns. The statement is closed, unless the driver
  fails with an error of another kind than its own. -/
  | refused {e : Error} {s' : Session d.traced} {found : d.Connection} {made closing : List (Use d)}
    (count : s'.count = s.count + 1)
    (part : made <+: bindings 0 compiled.params ++ [.execute found])
    (uses : s'.uses =
      s.uses ++ (.prepare compiled.sql :: made ++ closing).map (Prod.mk s.count))
    (cause : d.Refuses compiled s.connection.1 e)
    (closed : closing = [.close] ∨
      closing = [] ∧ d.FailsWith compiled s.connection.1 e ∧ e.isDriverError = false) :
    Ran s compiled (.error e, s')

/-- The log record of a statement is no use. -/
theorem announce_traced (s : Session d.traced) (logs : Bool) (compiled : Compiled) :
    (s.announce logs compiled).uses = s.uses ∧ (s.announce logs compiled).count = s.count := by
  cases logs with
  | false => exact ⟨rfl, rfl⟩
  | true => exact ⟨uses_log s _ _, rfl⟩

/-- A statement that is prepared after its log record has no values. -/
theorem took_prepare_traced (s : Session d.traced) (logs : Bool) (compiled : Compiled) :
    d.Took compiled.sql s.connection.1 []
      ((s.announce logs compiled).prepare compiled.sql).1.1
      ((s.announce logs compiled).prepare compiled.sql).2.connection.1 := by
  rw [← s.connection_announce logs compiled]
  exact .prepared

/-- Running a compiled statement. -/
theorem ran (s : Session d.traced) (logs : Bool) (compiled : Compiled) :
    Ran rowsOf s compiled (s.run logs compiled) := by
  obtain ⟨announced, counted⟩ := announce_traced s logs compiled
  obtain ⟨number, next, prepared⟩ := prepare_traced (s.announce logs compiled) compiled.sql
  have unread := rowsOf.prepared compiled.sql (s.announce logs compiled).connection.1
  rw [run]
  cases made : (s.announce logs compiled).prepare compiled.sql with
  | mk p s₁ =>
    have coming : rowsOf.coming p.1 = [] :=
      (congrArg (fun r => rowsOf.coming r.1.1) made).symm.trans unread
    have took := s.took_prepare_traced logs compiled
    rw [made] at took
    rw [made, counted] at number next
    rw [made, announced, counted] at prepared
    cases launched : s₁.launch p compiled.params with
    | mk outcome after =>
      obtain ⟨p₂, s₂⟩ := after
      obtain ⟨kept, found, some, served, part, result⟩ :=
        launch_traced rowsOf s₁ p took coming launched
      have uses : s₂.uses = s.uses ++ (.prepare compiled.sql :: some).map (Prod.mk s.count) := by
        rw [served.uses, prepared, number, List.append_assoc]
        rfl
      -- It is closed after repeated names at once, and after a failure only behind the log record.
      have closes (after : Session d.traced) (same : after.uses = s₂.uses) :
          (after.close p₂).2.uses =
            s.uses ++ (Use.prepare compiled.sql :: some ++ [Use.close]).map (Prod.mk s.count) := by
        rw [(served_close after p₂).uses, same, uses, kept, number, List.append_assoc,
          ← List.map_append]
      have count : s₂.count = s.count + 1 := served.count.trans next
      rcases result with ⟨rfl, rfl, executes, rows⟩ | ⟨e, rfl, fails⟩
      · simp only [launched]
        cases twice : repeatedNames (d.traced.columns p₂) with
        | nil => exact .opened (kept.trans number) count uses executes rows
        | cons name names =>
          exact .refused count part (closes s₂ rfl) (.repeated executes twice) (.inl rfl)
      · simp only [launched]
        cases own : e.isDriverError with
        | true => exact .refused count part (closes _ (uses_log s₂ _ _)) (.fails fails) (.inl rfl)
        | false =>
          refine .refused count part ?_ (.fails fails) (.inr ⟨rfl, fails, own⟩)
          rw [List.append_nil]
          exact uses

/-! ## Reading rows -/

/-- Why reading the rows of a statement through a function breaks off. -/
inductive Breaks {α : Type} (f : Row → Except Error α) (s : Session d.traced)
    (p : d.traced.Prepared) : Error → Prop
  /-- The driver fails to fetch. -/
  | fetch {e : Error} (failed : (d.fetch p.1 s.connection.1).outcome = .error e) : Breaks f s p e
  /-- The function fails on the row that is fetched. -/
  | made {e : Error} {row : Row} (fetched : (d.fetch p.1 s.connection.1).outcome = .ok (some row))
    (failed : f row = .error e) : Breaks f s p e

/-- Why a statement gives no next value. -/
inductive Halts (s : Session d.traced) (p : d.traced.Prepared) (transform : Transform)
    (spread : Bool) : Error → Prop
  /-- There is no further row. -/
  | usedUp (none : (d.fetch p.1 s.connection.1).outcome = .ok none) :
    Halts s p transform spread .exhausted
  /-- The driver fails to fetch, or the transform fails on the row that is fetched. -/
  | breaks {e : Error} (h : Breaks (fun row => row.through transform spread) s p e) :
    Halts s p transform spread e

/-- What pulling the next value of a statement gives. -/
inductive Advanced (s : Session d.traced) (p : d.traced.Prepared) (transform : Transform)
    (spread : Bool) : Except Error Value × RowIterator d.traced × Session d.traced → Prop
  /-- What the transform makes of the next row. The statement stays open. -/
  | yields {value : Value} {row : Row} {p' : d.traced.Prepared} {s' : Session d.traced}
    (number : p'.2 = p.2) (served : Served p.2 [.fetch] s s')
    (fetched : (d.fetch p.1 s.connection.1).outcome = .ok (some row))
    (rows : rowsOf.coming p.1 = row :: rowsOf.coming p'.1)
    (made : row.through transform spread = .ok value) :
    Advanced s p transform spread (.ok value, .reading p' transform spread, s')
  /-- An error or the end of the rows. The statement is closed. -/
  | ends {e : Error} {s' : Session d.traced} (served : Served p.2 [.fetch, .close] s s')
    (halts : Halts s p transform spread e) :
    Advanced s p transform spread (.error e, .finished, s')

/-- Asking for a row and closing afterwards. -/
theorem served_fetch_close {s s' : Session d.traced} {p p' : d.traced.Prepared}
    {outcome : Except Error (Option Row)} (h : s.fetch p = (outcome, p', s')) :
    Served p.2 [.fetch, .close] s (s'.close p').2 := by
  have asked := served_fetch s p
  have closed := served_close s' p'
  have number : p.2 = p'.2 := congrArg (fun r => r.2.1.2) h
  rw [h] at asked
  rw [← number] at closed
  exact asked.trans closed

/-- A fetched row is the first of those to come. -/
theorem fetch_traced {s s' : Session d.traced} {p p' : d.traced.Prepared} {row : Row}
    (h : s.fetch p = (.ok (some row), p', s')) :
    p'.2 = p.2 ∧ Served p.2 [.fetch] s s' ∧
      (d.fetch p.1 s.connection.1).outcome = .ok (some row) ∧
      rowsOf.coming p.1 = row :: rowsOf.coming p'.1 := by
  have asked := served_fetch s p
  have found : (d.fetch p.1 s.connection.1).outcome = .ok (some row) := congrArg Prod.fst h
  have left : (d.fetch p.1 s.connection.1).prepared = p'.1 := congrArg (fun r => r.2.1.1) h
  have number : p.2 = p'.2 := congrArg (fun r => r.2.1.2) h
  rw [h] at asked
  exact ⟨number.symm, asked, found, left ▸ rowsOf.fetched found⟩

/-- Pulling the next value of a statement. -/
theorem advanced (s : Session d.traced) (p : d.traced.Prepared) (transform : Transform)
    (spread : Bool) :
    Advanced rowsOf s p transform spread (RowIterator.advance s p transform spread) := by
  rw [RowIterator.advance]
  split
  · rename_i h
    exact .ends (served_fetch_close h) (.breaks (.fetch (congrArg Prod.fst h)))
  · rename_i h
    exact .ends (served_fetch_close h) (.usedUp (congrArg Prod.fst h))
  · rename_i row p' s' h
    obtain ⟨number, served, fetched, rows⟩ := fetch_traced rowsOf h
    split
    · rename_i failed
      exact .ends (served_fetch_close h) (.breaks (.made fetched failed))
    · rename_i value made
      exact .yields number served fetched rows made

/-- What reading all rows of a statement gives. -/
inductive Collected {α : Type} (f : Row → Except Error α) (s : Session d.traced)
    (p : d.traced.Prepared) : Except Error (List α) × Session d.traced → Prop
  /-- What the function makes of every row to come. -/
  | all {values : List α} {s' : Session d.traced}
    (served : Served p.2 (List.replicate (values.length + 1) .fetch ++ [.close]) s s')
    (made : List.Forall₂ (fun row value => f row = .ok value) (rowsOf.coming p.1) values) :
    Collected f s p (.ok values, s')
  /-- An error after some rows. -/
  | broken {e : Error} {s₁ s' : Session d.traced} {p₁ : d.traced.Prepared} {before : List Row}
    (fetched : Served p.2 (List.replicate before.length .fetch) s s₁)
    (rows : rowsOf.coming p.1 = before ++ rowsOf.coming p₁.1)
    (made : ∀ row ∈ before, ∃ a, f row = .ok a) (breaks : Breaks f s₁ p₁ e)
    (served : Served p.2 (List.replicate (before.length + 1) .fetch ++ [.close]) s s') :
    Collected f s p (.error e, s')

/-- Reading all rows uses the statement only. -/
theorem Collected.served {α : Type} {f : Row → Except Error α} {s : Session d.traced}
    {p : d.traced.Prepared} {result : Except Error (List α) × Session d.traced}
    (h : Collected rowsOf f s p result) : ∃ made, Served p.2 made s result.2 := by
  cases h with
  | all served made => exact ⟨_, served⟩
  | broken fetched rows made breaks served => exact ⟨_, served⟩

/-- Reading all rows of a statement. -/
theorem collected {α : Type} (f : Row → Except Error α) (s : Session d.traced)
    (p : d.traced.Prepared) : Collected rowsOf f s p (s.collect f p) := by
  fun_induction Session.collect f s p with
  | case1 s p e p' s' failed =>
    exact .broken (.refl _ s) rfl (fun row none => absurd none List.not_mem_nil)
      (.fetch (congrArg Prod.fst failed)) (served_fetch_close failed)
  | case2 s p p' s' ended =>
    have served := served_fetch_close ended
    have left : rowsOf.coming p.1 = [] := rowsOf.exhausted (congrArg Prod.fst ended)
    refine .all served ?_
    rw [left]
    exact .nil
  | case3 s p row p' s' fetched e refused =>
    obtain ⟨-, -, found, -⟩ := fetch_traced rowsOf fetched
    exact .broken (.refl _ s) rfl (fun row none => absurd none List.not_mem_nil)
      (.made found refused) (served_fetch_close fetched)
  | case4 s p row p' s' fetched value made rest s'' later ih =>
    obtain ⟨number, served, -, rows⟩ := fetch_traced rowsOf fetched
    rw [later] at ih
    cases ih with
    | all more values =>
      rw [number] at more
      refine .all (served.trans more) ?_
      rw [rows]
      exact .cons made values
    | @broken e s₁ _ p₁ before asked left made' breaks more =>
      rw [number] at asked more
      have fetched : Served p.2 (List.replicate (row :: before).length .fetch) s s₁ :=
        served.trans asked
      refine .broken fetched ?_ ?_ breaks (served.trans more)
      · rw [rows, left]
        rfl
      · intro other member
        rcases List.mem_cons.1 member with rfl | later
        · exact ⟨_, made⟩
        · exact made' other later

/-! ## Whole exchanges -/

/-- Between two moments only new statements are used. -/
structure Passed (s s' : Session d.traced) : Prop where
  /-- The number of statements does not fall. -/
  count : s.count ≤ s'.count
  /-- The uses are of statements that are prepared in between. -/
  uses : ∃ made, s'.uses = s.uses ++ made ∧
    ∀ used ∈ made, s.count ≤ used.1 ∧ used.1 < s'.count

/-- Nothing happens between a moment and itself. -/
theorem Passed.refl (s : Session d.traced) : Passed s s :=
  ⟨Nat.le_refl _, [], (List.append_nil _).symm, fun _ h => by cases h⟩

/-- What happens between three moments. -/
theorem Passed.trans {s s' s'' : Session d.traced} (h : Passed s s') (h' : Passed s' s'') :
    Passed s s'' := by
  obtain ⟨grows, made, noted, numbered⟩ := h
  obtain ⟨grows', made', noted', numbered'⟩ := h'
  refine ⟨Nat.le_trans grows grows', made ++ made', ?_, ?_⟩
  · rw [noted', noted, List.append_assoc]
  · intro used hu
    rcases List.mem_append.1 hu with early | late
    · exact ⟨(numbered used early).1, Nat.lt_of_lt_of_le (numbered used early).2 grows'⟩
    · exact ⟨Nat.le_trans grows (numbered' used late).1, (numbered' used late).2⟩

/-- A statement that is prepared and used in between is new. -/
theorem passed_of_uses {s s' : Session d.traced} {made : List (Use d)}
    (count : s'.count = s.count + 1)
    (uses : s'.uses = s.uses ++ made.map (Prod.mk s.count)) : Passed s s' := by
  refine ⟨by omega, _, uses, ?_⟩
  intro used hu
  obtain ⟨_, -, rfl⟩ := List.mem_map.1 hu
  exact ⟨Nat.le_refl _, by omega⟩

include rowsOf

/-- A statement that fails to run is new. -/
theorem passed_of_run_error {s s' : Session d.traced} {logs : Bool} {compiled : Compiled}
    {e : Error} (h : s.run logs compiled = (.error e, s')) : Passed s s' := by
  have result := ran rowsOf s logs compiled
  rw [h] at result
  cases result with
  | refused count part uses cause closed => exact passed_of_uses count uses

/-- A statement that runs is new, whatever use is made of it afterwards. -/
theorem passed_of_run_ok {s s' s'' : Session d.traced} {logs : Bool} {compiled : Compiled}
    {p : d.traced.Prepared} {made : List (Use d)} (h : s.run logs compiled = (.ok p, s'))
    (served : Served p.2 made s' s'') : Passed s s'' := by
  have result := ran rowsOf s logs compiled
  rw [h] at result
  cases result with
  | @opened _ _ found number count uses rows =>
    have all : s''.uses = s.uses ++ (opening compiled found ++ made).map (Prod.mk s.count) := by
      rw [served.uses, uses, number, List.append_assoc, ← List.map_append]
    exact passed_of_uses (served.count.trans count) all

/-- Reading all rows of a compiled statement uses a new statement only. -/
theorem passed_fetchAll (s : Session d.traced) (logs : Bool) (compiled : Compiled) :
    Passed s (s.fetchAll logs compiled).2 := by
  unfold fetchAll
  split
  · rename_i h
    exact passed_of_run_error rowsOf h
  · rename_i p s' h
    obtain ⟨made, served⟩ := (collected rowsOf .ok s' p).served
    exact passed_of_run_ok rowsOf h served

/-- A compiled insertion uses a new statement only. -/
theorem passed_insert (s : Session d.traced) (logs : Bool) (compiled : Compiled) :
    Passed s (s.insert logs compiled).2 := by
  unfold insert
  split
  · rename_i h
    exact passed_of_run_error rowsOf h
  · rename_i p s' h
    exact passed_of_run_ok rowsOf h (served_close s' p)

/-- A compiled mutation uses a new statement only. -/
theorem passed_affect (s : Session d.traced) (logs : Bool) (compiled : Compiled) :
    Passed s (s.affect logs compiled).2 := by
  unfold affect
  split
  · rename_i h
    exact passed_of_run_error rowsOf h
  · rename_i p s' h
    exact passed_of_run_ok rowsOf h (served_close s' p)

end Session

end SqlBuilder
