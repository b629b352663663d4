import SqlBuilder.Proofs.Cover
import SqlBuilder.Proofs.Tracing

/-!
# Watched drivers

A watched driver does what another driver does and reports every call together with its outcome and
the number of the prepared statement. So a session has lines: the log records and the calls, in the
order in which they were made. This file says which lines a compiled statement adds, from the first
log record to the execution, and which lines the reading of its rows adds.
-/

set_option autoImplicit false

namespace SqlBuilder

open Sql (Compiled)

/-- A call on a driver with its outcome. -/
inductive Exchange where
  /-- A text is prepared. -/
  | prepare (sql : String)
  /-- A value is bound. -/
  | bind (position : Int) (value : Value) (tag : Tag) (outcome : Except Error Unit)
  /-- The statement is executed. -/
  | execute (outcome : Except Error Unit)
  /-- A row is asked for. -/
  | fetch (outcome : Except Error (Option Row))
  /-- The statement is closed. -/
  | close

/-- What a watched driver reports. -/
structure Watched (d : Driver) where
  /-- The number of the prepared statement. -/
  number : Nat
  /-- The call. -/
  exchange : Exchange
  /-- What the driver itself reports. -/
  reports : List d.Event

/-- A driver that numbers its prepared statements and reports every call with its outcome. -/
def Driver.watched (d : Driver) : Driver where
  Connection := d.Connection × Nat
  Prepared := d.Prepared × Nat
  Event := Watched d
  prepare sql c :=
    let (p, connection, events) := d.prepare sql c.1
    ((p, c.2), (connection, c.2 + 1), [⟨c.2, .prepare sql, events⟩])
  bind p c position value tag :=
    let contact := d.bind p.1 c.1 position value tag
    ⟨contact.outcome, (contact.prepared, p.2), (contact.connection, c.2),
      [⟨p.2, .bind position value tag contact.outcome, contact.events⟩]⟩
  execute p c :=
    let contact := d.execute p.1 c.1
    ⟨contact.outcome, (contact.prepared, p.2), (contact.connection, c.2),
      [⟨p.2, .execute contact.outcome, contact.events⟩]⟩
  columns p := d.columns p.1
  fetch p c :=
    let contact := d.fetch p.1 c.1
    ⟨contact.outcome, (contact.prepared, p.2), (contact.connection, c.2),
      [⟨p.2, .fetch contact.outcome, contact.events⟩]⟩
  rowCount p := d.rowCount p.1
  close p c :=
    let (closed, connection, events) := d.close p.1 c.1
    ((closed, p.2), (connection, c.2), [⟨p.2, .close, events⟩])
  lastInsertId c := d.lastInsertId c.1
  remaining p c := d.remaining p.1 c.1
  remaining_fetch p c row h := d.remaining_fetch p.1 c.1 row h

/-- A watched driver does what the driver does. -/
def Driver.watchedCover (d : Driver) : d.watched.Cover d where
  connection c := c.1
  prepared p := p.1
  reports watched := Watched.reports watched
  prepare sql c := by simp [Driver.watched]
  bind p c position value tag := by simp [Driver.watched, Contact.only]
  execute p c := by simp [Driver.watched, Contact.only]
  fetch p c := by simp [Driver.watched, Contact.only]
  close p c := by simp [Driver.watched]
  columns p := rfl
  rowCount p := rfl
  lastInsertId c := rfl

/-- A line of what is noted in a session. -/
inductive Line where
  /-- A log record. -/
  | log (level : LogLevel) (message : String)
  /-- A call on the prepared statement with a number. -/
  | call (number : Nat) (exchange : Exchange)

variable {d : Driver}

/-- The line of an entry. -/
def Entry.line : Entry d.watched.Event → Line
  | .log level message => .log level message
  | .report watched => .call (Watched.number watched) (Watched.exchange watched)

namespace Session

/-! ## Lines -/

/-- All lines, oldest first. -/
def lines (s : Session d.watched) : List Line :=
  s.journal.map Entry.line

/-- How many statements were prepared. -/
def prepares (s : Session d.watched) : Nat :=
  s.connection.2

/-- Between two moments some lines are added, and no statement is prepared. -/
structure Adds (added : List Line) (s s' : Session d.watched) : Prop where
  /-- The lines. -/
  lines : s'.lines = s.lines ++ added
  /-- How many statements were prepared. -/
  prepares : s'.prepares = s.prepares

/-- Nothing is added between a moment and itself. -/
theorem Adds.refl (s : Session d.watched) : Adds [] s s :=
  ⟨(List.append_nil _).symm, rfl⟩

/-- What is added between two moments, and then between the second and a third. -/
theorem Adds.trans {added more : List Line} {s s' s'' : Session d.watched} (h : Adds added s s')
    (h' : Adds more s' s'') : Adds (added ++ more) s s'' := by
  refine ⟨?_, h'.prepares.trans h.prepares⟩
  rw [h'.lines, h.lines, List.append_assoc]

/-- Further entries are further lines. -/
theorem lines_append (s : Session d.watched) (entries : List (Entry d.watched.Event)) :
    (s.journal ++ entries).map Entry.line = s.lines ++ entries.map Entry.line :=
  List.map_append

/-- A log record adds its line. -/
theorem adds_log (s : Session d.watched) (level : LogLevel) (message : String) :
    Adds [.log level message] s (s.log level message) :=
  ⟨lines_append s _, rfl⟩

/-- An announcement adds its records, if there is a log. -/
theorem adds_announce (s : Session d.watched) (logs : Bool) (compiled : Compiled) :
    Adds ((announcement (d := d.watched) logs compiled).map Entry.line) s
      (s.announce logs compiled) := by
  cases logs with
  | false => exact .refl s
  | true => exact adds_log s _ _

/-- Binding a value adds the call with its outcome. -/
theorem adds_bind (s : Session d.watched) (p : d.watched.Prepared) (position : Int) (value : Value)
    (tag : Tag) :
    Adds [.call p.2 (.bind position value tag (s.bind p position value tag).1)] s
      (s.bind p position value tag).2.2 :=
  ⟨lines_append s _, rfl⟩

/-- Executing adds the call with its outcome. -/
theorem adds_execute (s : Session d.watched) (p : d.watched.Prepared) :
    Adds [.call p.2 (.execute (s.execute p).1)] s (s.execute p).2.2 :=
  ⟨lines_append s _, rfl⟩

/-- Asking for a row adds the call with its outcome. -/
theorem adds_fetch (s : Session d.watched) (p : d.watched.Prepared) :
    Adds [.call p.2 (.fetch (s.fetch p).1)] s (s.fetch p).2.2 :=
  ⟨lines_append s _, rfl⟩

/-- Closing adds the call. -/
theorem adds_close (s : Session d.watched) (p : d.watched.Prepared) :
    Adds [.call p.2 .close] s (s.close p).2 :=
  ⟨lines_append s _, rfl⟩

/-- A log record and closing add two lines. -/
theorem adds_log_close (s : Session d.watched) (level : LogLevel) (message : String)
    (p : d.watched.Prepared) :
    Adds [.log level message, .call p.2 .close] s ((s.log level message).close p).2 :=
  (adds_log s level message).trans (adds_close _ p)

/-- Preparing a text gives a statement with the next number. -/
theorem adds_prepare (s : Session d.watched) (sql : String) :
    (s.prepare sql).1.2 = s.prepares ∧ (s.prepare sql).2.prepares = s.prepares + 1 ∧
      (s.prepare sql).2.lines = s.lines ++ [.call s.prepares (.prepare sql)] :=
  ⟨rfl, rfl, lines_append s _⟩

/-! ## Opening a statement -/

/-- The lines of values that are accepted at the positions from a given one on. -/
def accepted (number : Nat) : Nat → List Value → List Line
  | _, [] => []
  | position, value :: rest =>
    .call number (.bind position value value.tag (.ok ())) :: accepted number (position + 1) rest

/-- The lines that binding values adds after those bound before: all are accepted in order, or one
is refused after those before it. -/
inductive Offered (d : Driver) (number : Nat) (sql : String) (start : d.Connection)
    (given values : List Value) (c : d.Connection) : List Line → Except Error d.Prepared → Prop
  /-- All are accepted. -/
  | all {p : d.Prepared} (took : d.Took sql start (given ++ values) p c) :
    Offered d number sql start given values c (accepted number given.length values) (.ok p)
  /-- A value is refused. -/
  | refused {before after : List Value} {value : Value} {e : Error} {p : d.Prepared}
    {found : d.Connection} (split : values = before ++ value :: after)
    (took : d.Took sql start (given ++ before) p found)
    (failed : (d.bind p found (given ++ before).length value value.tag).outcome = .error e) :
    Offered d number sql start given values c
      (accepted number given.length before ++
        [.call number (.bind (given ++ before).length value value.tag (.error e))]) (.error e)

/-- Binding the next value to a prepared statement that took some before. -/
theorem bind_watched {s s' : Session d.watched} {p p' : d.watched.Prepared} {sql : String}
    {start : d.Connection} {given : List Value} (took : d.Took sql start given p.1 s.connection.1)
    {value : Value} {outcome : Except Error Unit}
    (h : s.bind p given.length value value.tag = (outcome, p', s')) :
    p'.2 = p.2 ∧
      (d.bind p.1 s.connection.1 given.length value value.tag).outcome = outcome ∧
      (outcome = .ok () → d.Took sql start (given ++ [value]) p'.1 s'.connection.1) := by
  have number : p'.2 = p.2 := (congrArg (fun r => r.2.1.2) h).symm
  have prepared : p'.1 = (d.bind p.1 s.connection.1 given.length value value.tag).prepared :=
    (congrArg (fun r => r.2.1.1) h).symm
  have connection :
      s'.connection.1 = (d.bind p.1 s.connection.1 given.length value value.tag).connection :=
    (congrArg (fun r => r.2.2.connection.1) h).symm
  have here : (d.bind p.1 s.connection.1 given.length value value.tag).outcome = outcome :=
    congrArg Prod.fst h
  refine ⟨number, here, fun ok => ?_⟩
  rw [prepared, connection]
  exact took.bound value (here.trans ok)

/-- Binding values to a prepared statement that took some before. -/
theorem bindFrom_watched (s : Session d.watched) (p : d.watched.Prepared) {sql : String}
    {start : d.Connection} {given : List Value} (took : d.Took sql start given p.1 s.connection.1)
    (values : List Value) {outcome : Except Error Unit} {p' : d.watched.Prepared}
    {s' : Session d.watched} (h : s.bindFrom p given.length values = (outcome, p', s')) :
    p'.2 = p.2 ∧ ∃ lines, Adds lines s s' ∧
      Offered d p.2 sql start given values s'.connection.1 lines (outcome.map fun _ => p'.1) := by
  induction values generalizing s p given with
  | nil =>
    obtain ⟨rfl, rfl, rfl⟩ : Except.ok () = outcome ∧ p = p' ∧ s = s' := by
      simpa [bindFrom] using h
    refine ⟨rfl, [], .refl s, .all ?_⟩
    rwa [List.append_nil]
  | cons value rest ih =>
    have adds := adds_bind s p given.length value value.tag
    rw [bindFrom] at h
    cases bound : s.bind p given.length value value.tag with
    | mk first after =>
      obtain ⟨p₁, s₁⟩ := after
      obtain ⟨number, here, takes⟩ := bind_watched took bound
      rw [bound] at adds h
      have whole (more : List Value) : given ++ [value] ++ more = given ++ value :: more :=
        List.append_assoc _ _ _
      cases first with
      | error e =>
        obtain ⟨rfl, rfl, rfl⟩ : Except.error e = outcome ∧ p₁ = p' ∧ s₁ = s' := by
          simpa using h
        refine ⟨number, _, adds, ?_⟩
        have none : given ++ [] = given := List.append_nil given
        have refused : Offered d p.2 sql start given (value :: rest) s₁.connection.1
            (accepted p.2 given.length [] ++
              [.call p.2 (.bind (given ++ []).length value value.tag (.error e))]) (.error e) :=
          .refused rfl (none.symm ▸ took) (none.symm ▸ here)
        rw [none] at refused
        exact refused
      | ok done =>
        have length : (given ++ [value]).length = given.length + 1 := List.length_append
        rw [← length] at h
        obtain ⟨same, lines, later, offered⟩ := ih s₁ p₁ (takes rfl) h
        rw [number] at same offered
        refine ⟨same, _, adds.trans later, ?_⟩
        cases outcome with
        | error e =>
          cases offered with
          | @refused before after refused _ q found split taken failed =>
            rw [whole] at taken failed ⊢
            rw [length]
            exact .refused (congrArg (value :: ·) split) taken failed
        | ok done =>
          cases offered with
          | all taken =>
            rw [whole] at taken
            rw [length]
            exact .all taken

/-- The lines that binding the values of a compiled statement and executing it adds, once its text
was prepared on a connection: all values are accepted in order and the statement is executed, or the
driver fails on a value or on executing. -/
inductive Tried (d : Driver) (number : Nat) (compiled : Compiled) (start : d.Connection) :
    List Line → Except Error d.Prepared → Prop
  /-- All values are bound in order, and the statement is executed. -/
  | executed {found : d.Connection} {p : d.Prepared}
    (executes : d.Executes compiled start found p) :
    Tried d number compiled start
      (accepted number 0 compiled.params ++ [.call number (.execute (.ok ()))]) (.ok p)
  /-- A value is refused after those before it. -/
  | notBound {before after : List Value} {value : Value} {e : Error} {p : d.Prepared}
    {found : d.Connection} (params : compiled.params = before ++ value :: after)
    (took : d.Took compiled.sql start before p found)
    (failed : (d.bind p found before.length value value.tag).outcome = .error e) :
    Tried d number compiled start
      (accepted number 0 before ++ [.call number (.bind before.length value value.tag (.error e))])
      (.error e)
  /-- All values are bound in order, and the execution fails. -/
  | notExecuted {e : Error} {p : d.Prepared} {found : d.Connection}
    (took : d.Took compiled.sql start compiled.params p found)
    (failed : (d.execute p found).outcome = .error e) :
    Tried d number compiled start
      (accepted number 0 compiled.params ++ [.call number (.execute (.error e))]) (.error e)

/-- A statement fails when it is tried as the driver fails with it. -/
theorem Tried.fails {number : Nat} {compiled : Compiled} {start : d.Connection} {lines : List Line}
    {e : Error} (h : Tried d number compiled start lines (.error e)) :
    d.FailsWith compiled start e := by
  cases h with
  | notBound params took failed => exact .bind params took failed
  | notExecuted took failed => exact .execute took failed

/-- Binding values and executing. -/
theorem launch_tried {s : Session d.watched} {p : d.watched.Prepared} {compiled : Compiled}
    {start : d.Connection} (took : d.Took compiled.sql start [] p.1 s.connection.1)
    {outcome : Except Error Unit} {p' : d.watched.Prepared} {s' : Session d.watched}
    (h : s.launch p compiled.params = (outcome, p', s')) :
    p'.2 = p.2 ∧ ∃ lines, Adds lines s s' ∧
      Tried d p.2 compiled start lines (outcome.map fun _ => p'.1) := by
  rw [launch] at h
  cases bound : s.bindFrom p 0 compiled.params with
  | mk first after =>
    obtain ⟨p₂, s₂⟩ := after
    obtain ⟨number, lines, adds, offered⟩ := bindFrom_watched s p took compiled.params bound
    rw [bound] at h
    cases first with
    | error e =>
      obtain ⟨rfl, rfl, rfl⟩ : Except.error e = outcome ∧ p₂ = p' ∧ s₂ = s' := by
        simpa using h
      cases offered with
      | refused params taken failed => exact ⟨number, _, adds, .notBound params taken failed⟩
    | ok done =>
      cases offered with
      | all taken =>
        have executes := adds_execute s₂ p₂
        have ran : s₂.execute p₂ = (outcome, p', s') := h
        have same : (d.execute p₂.1 s₂.connection.1).outcome = outcome := congrArg Prod.fst ran
        have kept : p₂.2 = p'.2 := congrArg (fun r => r.2.1.2) ran
        have left : (d.execute p₂.1 s₂.connection.1).prepared = p'.1 :=
          congrArg (fun r => r.2.1.1) ran
        rw [ran, number] at executes
        refine ⟨kept.symm.trans number, _, adds.trans executes, ?_⟩
        cases outcome with
        | error e => exact .notExecuted taken same
        | ok done =>
          rw [← left]
          exact .executed (.executed taken same)

/-- What a failure of binding or executing is followed by: one in this library's terms is logged,
and the statement is closed. -/
def aftermath (number : Nat) (compiled : Compiled) (e : Error) : List Line :=
  if e.isDriverError then [.log .error (failureMessage compiled), .call number .close] else []

/-- The lines that a compiled statement adds from a connection on until it can be read, whatever the
driver fails with. -/
inductive Attempted (d : Driver) (number : Nat) (compiled : Compiled) (start : d.Connection) :
    List Line → Except Error d.watched.Prepared → Prop
  /-- The statement is open. -/
  | opened {lines : List Line} {p : d.Prepared}
    (tried : Tried d number compiled start lines (.ok p))
    (distinct : repeatedNames (d.columns p) = []) :
    Attempted d number compiled start (.call number (.prepare compiled.sql) :: lines)
      (.ok (p, number))
  /-- Binding or executing failed. -/
  | failed {lines : List Line} {e : Error}
    (tried : Tried d number compiled start lines (.error e)) :
    Attempted d number compiled start
      (.call number (.prepare compiled.sql) :: (lines ++ aftermath number compiled e)) (.error e)
  /-- Some columns have the same name. -/
  | duplicates {lines : List Line} {p : d.Prepared} {name : String} {names : List String}
    (tried : Tried d number compiled start lines (.ok p))
    (repeated : repeatedNames (d.columns p) = name :: names) :
    Attempted d number compiled start
      (.call number (.prepare compiled.sql) :: (lines ++ [.call number .close]))
      (.error (.duplicateColumns (name :: names)))

/-- A statement that is prepared after its log record has no values. -/
theorem took_prepare_watched (s : Session d.watched) (logs : Bool) (compiled : Compiled) :
    d.Took compiled.sql s.connection.1 []
      ((s.announce logs compiled).prepare compiled.sql).1.1
      ((s.announce logs compiled).prepare compiled.sql).2.connection.1 := by
  rw [← s.connection_announce logs compiled]
  exact .prepared

/-- What is done with a statement after its log record and after it was prepared. -/
theorem adds_behind {s t : Session d.watched} {logs : Bool} {compiled : Compiled}
    {p : d.watched.Prepared} {s₁ : Session d.watched} {lines : List Line}
    (made : (s.announce logs compiled).prepare compiled.sql = (p, s₁)) (adds : Adds lines s₁ t) :
    p.2 = s.prepares ∧ t.prepares = s.prepares + 1 ∧
      t.lines = s.lines ++ (announcement (d := d.watched) logs compiled).map Entry.line ++
        .call s.prepares (.prepare compiled.sql) :: lines := by
  have announced := adds_announce s logs compiled
  obtain ⟨number, next, prepared⟩ := adds_prepare (s.announce logs compiled) compiled.sql
  rw [announced.prepares, made] at number next prepared
  refine ⟨number, adds.prepares.trans next, ?_⟩
  rw [adds.lines, prepared, announced.lines, List.append_assoc _ _ lines]
  rfl

/-- What a failure is followed by. -/
theorem adds_aftermath (s : Session d.watched) (p : d.watched.Prepared) (compiled : Compiled)
    (e : Error) :
    Adds (aftermath p.2 compiled e) s
      (if e.isDriverError then ((s.log .error (failureMessage compiled)).close p).2 else s) := by
  unfold aftermath
  split
  · exact adds_log_close s _ _ p
  · exact .refl s

/-- Running a compiled statement adds its log record, if statements are logged, and then the lines
of a statement that is prepared and tried. -/
theorem run_attempted (s : Session d.watched) (logs : Bool) (compiled : Compiled) :
    (s.run logs compiled).2.prepares = s.prepares + 1 ∧ ∃ lines,
      (s.run logs compiled).2.lines =
        s.lines ++ (announcement (d := d.watched) logs compiled).map Entry.line ++ lines ∧
      Attempted d s.prepares compiled s.connection.1 lines (s.run logs compiled).1 := by
  rw [run]
  cases made : (s.announce logs compiled).prepare compiled.sql with
  | mk p s₁ =>
    have took := s.took_prepare_watched logs compiled
    rw [made] at took
    cases launched : s₁.launch p compiled.params with
    | mk outcome after =>
      obtain ⟨p₂, s₂⟩ := after
      obtain ⟨kept, lines, adds, tried⟩ := launch_tried took launched
      have number := (adds_behind made adds).1
      have numbered : p₂.2 = s.prepares := kept.trans number
      rw [number] at tried
      cases outcome with
      | ok done =>
        -- Executed: the statement is open, or closed at once for its repeated columns.
        simp only [launched]
        cases repeated : repeatedNames (d.watched.columns p₂) with
        | nil =>
          have whole : p₂ = (p₂.1, s.prepares) := Prod.ext rfl numbered
          obtain ⟨-, prepares, added⟩ := adds_behind made adds
          refine ⟨prepares, _, added, ?_⟩
          rw [whole]
          exact .opened tried repeated
        | cons name names =>
          have closes := adds_close s₂ p₂
          rw [numbered] at closes
          obtain ⟨-, prepares, added⟩ := adds_behind made (adds.trans closes)
          exact ⟨prepares, _, added, .duplicates tried repeated⟩
      | error e =>
        -- Failed: only a failure in this library's terms is logged and closes the statement.
        have follows := adds_aftermath s₂ p₂ compiled e
        rw [numbered] at follows
        obtain ⟨-, prepares, added⟩ := adds_behind made (adds.trans follows)
        simp only [launched]
        split at prepares
        · rename_i own
          rw [if_pos own] at added ⊢
          exact ⟨prepares, _, added, .failed tried⟩
        · rename_i foreign
          rw [if_neg foreign] at added ⊢
          exact ⟨prepares, _, added, .failed tried⟩

/-- The lines that a compiled statement adds from preparing it on a connection to executing it. A
failure is logged, and the statement is closed. -/
inductive Opened (d : Driver) (number : Nat) (compiled : Compiled) (start : d.Connection) :
    List Line → Except Error d.Prepared → Prop
  /-- All values are bound in order, and the statement is executed. -/
  | executed {found : d.Connection} {p : d.Prepared}
    (executes : d.Executes compiled start found p) :
    Opened d number compiled start
      (.call number (.prepare compiled.sql) :: accepted number 0 compiled.params ++
        [.call number (.execute (.ok ()))]) (.ok p)
  /-- A value is refused after those before it. -/
  | notBound {before after : List Value} {value : Value} {e : Error} {p : d.Prepared}
    {found : d.Connection} (params : compiled.params = before ++ value :: after)
    (took : d.Took compiled.sql start before p found)
    (failed : (d.bind p found before.length value value.tag).outcome = .error e) :
    Opened d number compiled start
      (.call number (.prepare compiled.sql) :: accepted number 0 before ++
        [.call number (.bind before.length value value.tag (.error e)),
          .log .error (failureMessage compiled), .call number .close]) (.error e)
  /-- All values are bound in order, and the execution fails. -/
  | notExecuted {e : Error} {p : d.Prepared} {found : d.Connection}
    (took : d.Took compiled.sql start compiled.params p found)
    (failed : (d.execute p found).outcome = .error e) :
    Opened d number compiled start
      (.call number (.prepare compiled.sql) :: accepted number 0 compiled.params ++
        [.call number (.execute (.error e)),
          .log .error (failureMessage compiled), .call number .close]) (.error e)

/-- The lines that a compiled statement adds until it can be read: it is open, or it failed, or it
was closed since two columns have one name. -/
inductive Begun (d : Driver) (number : Nat) (compiled : Compiled) (start : d.Connection) :
    List Line → Except Error d.watched.Prepared → Prop
  /-- The statement is open. -/
  | opened {lines : List Line} {p : d.Prepared}
    (opened : Opened d number compiled start lines (.ok p))
    (distinct : repeatedNames (d.columns p) = []) :
    Begun d number compiled start lines (.ok (p, number))
  /-- Binding or executing failed. -/
  | failed {lines : List Line} {e : Error}
    (opened : Opened d number compiled start lines (.error e)) :
    Begun d number compiled start lines (.error e)
  /-- Some columns have the same name. -/
  | duplicates {lines : List Line} {p : d.Prepared} {name : String} {names : List String}
    (opened : Opened d number compiled start lines (.ok p))
    (repeated : repeatedNames (d.columns p) = name :: names) :
    Begun d number compiled start (lines ++ [.call number .close])
      (.error (.duplicateColumns (name :: names)))

/-- A statement that was tried begins, if it fails in this library's terms only: then each failure
is logged. -/
theorem Attempted.begun {number : Nat} {compiled : Compiled} {start : d.Connection}
    (faults : ∀ e, d.FailsWith compiled start e → e.isDriverError = true) {lines : List Line}
    {outcome : Except Error d.watched.Prepared}
    (h : Attempted d number compiled start lines outcome) :
    Begun d number compiled start lines outcome := by
  have logged {e : Error} (fails : d.FailsWith compiled start e) : aftermath number compiled e =
      [.log .error (failureMessage compiled), .call number .close] :=
    if_pos (faults e fails)
  cases h with
  | opened tried distinct =>
    cases tried with
    | executed executes => exact .opened (.executed executes) distinct
  | failed tried =>
    rw [logged tried.fails]
    cases tried with
    | notBound params took failed =>
      rw [List.append_assoc]
      exact .failed (.notBound params took failed)
    | notExecuted took failed =>
      rw [List.append_assoc]
      exact .failed (.notExecuted took failed)
  | duplicates tried repeated =>
    cases tried with
    | executed executes => exact .duplicates (.executed executes) repeated

/-- Running a compiled statement adds its log record, if statements are logged, and then the lines
of a statement that begins. -/
theorem run_watched (s : Session d.watched) (logs : Bool) (compiled : Compiled)
    (faults : ∀ e, d.FailsWith compiled s.connection.1 e → e.isDriverError = true) :
    (s.run logs compiled).2.prepares = s.prepares + 1 ∧ ∃ lines,
      (s.run logs compiled).2.lines =
        s.lines ++ (announcement (d := d.watched) logs compiled).map Entry.line ++ lines ∧
      Begun d s.prepares compiled s.connection.1 lines (s.run logs compiled).1 := by
  obtain ⟨prepares, lines, added, attempted⟩ := run_attempted s logs compiled
  exact ⟨prepares, lines, added, attempted.begun faults⟩

/-! ## Reading rows -/

/-- The line of a row that is fetched. -/
def fetched (number : Nat) (row : Row) : Line :=
  .call number (.fetch (.ok (some row)))

/-- Asking for a row and closing afterwards. -/
theorem adds_fetch_close {s s' : Session d.watched} {p p' : d.watched.Prepared}
    {outcome : Except Error (Option Row)} (h : s.fetch p = (outcome, p', s')) :
    Adds [.call p.2 (.fetch outcome), .call p.2 .close] s (s'.close p').2 := by
  have asked := adds_fetch s p
  have closed := adds_close s' p'
  have number : p.2 = p'.2 := congrArg (fun r => r.2.1.2) h
  rw [h] at asked
  rw [← number] at closed
  exact asked.trans closed

section Reading

variable {α : Type}

/-- The lines that reading rows through a function adds: rows are fetched until there is none,
fetching fails or the function refuses one, and the statement is closed. -/
inductive Drained (number : Nat) (f : Row → Except Error α) :
    List Line → Except Error (List α) → Prop
  /-- There are no further rows. -/
  | all (rows : List Row) {made : List α} (makes : rows.mapM f = .ok made) :
    Drained number f (rows.map (fetched number) ++
      [.call number (.fetch (.ok none)), .call number .close]) (.ok made)
  /-- Fetching fails. -/
  | broken (rows : List Row) (e : Error) :
    Drained number f (rows.map (fetched number) ++
      [.call number (.fetch (.error e)), .call number .close]) (.error e)
  /-- The function refuses a row. -/
  | refused (rows : List Row) {row : Row} {e : Error} (refuses : f row = .error e) :
    Drained number f (rows.map (fetched number) ++ [fetched number row, .call number .close])
      (.error e)

/-- A row before those that are read. -/
theorem Drained.cons {number : Nat} {f : Row → Except Error α} {row : Row} {a : α}
    (makes : f row = .ok a) {lines : List Line} {outcome : Except Error (List α)}
    (h : Drained number f lines outcome) :
    Drained number f (fetched number row :: lines) (outcome.map (a :: ·)) := by
  cases h with
  | @all rows made later =>
    have both : (row :: rows).mapM f = .ok (a :: made) := by
      rw [List.mapM_cons, makes, later]
      rfl
    exact .all (row :: rows) both
  | broken rows e => exact .broken (row :: rows) e
  | refused rows refuses => exact .refused (row :: rows) refuses

/-- Reading all rows of a statement through a function. -/
theorem collect_drained (f : Row → Except Error α) (s : Session d.watched)
    (p : d.watched.Prepared) :
    ∃ lines, Adds lines s (s.collect f p).2 ∧ Drained p.2 f lines (s.collect f p).1 := by
  fun_induction Session.collect f s p with
  | case1 s p e p' s' failed => exact ⟨_, adds_fetch_close failed, .broken [] e⟩
  | case2 s p p' s' ended => exact ⟨_, adds_fetch_close ended, .all [] rfl⟩
  | case3 s p row p' s' found e refuses =>
    exact ⟨_, adds_fetch_close found, .refused [] refuses⟩
  | case4 s p row p' s' found value makes rest s'' later ih =>
    have asked := adds_fetch s p
    have number : p.2 = p'.2 := congrArg (fun r => r.2.1.2) found
    obtain ⟨lines, adds, drained⟩ := ih
    rw [found] at asked
    rw [later, ← number] at drained
    rw [later] at adds
    exact ⟨_, asked.trans adds, drained.cons makes⟩

end Reading

/-- The lines that reading all rows adds: the rows are fetched until there is none or fetching
fails, and the statement is closed. -/
inductive Reads (number : Nat) : List Line → Except Error (List Row) → Prop
  /-- There are no further rows. -/
  | all (rows : List Row) :
    Reads number (rows.map (fetched number) ++
      [.call number (.fetch (.ok none)), .call number .close]) (.ok rows)
  /-- Fetching fails. -/
  | broken (rows : List Row) (e : Error) :
    Reads number (rows.map (fetched number) ++
      [.call number (.fetch (.error e)), .call number .close]) (.error e)

/-- Reading all rows of a statement. -/
theorem collect_watched (s : Session d.watched) (p : d.watched.Prepared) :
    ∃ lines, Adds lines s (s.collect .ok p).2 ∧ Reads p.2 lines (s.collect .ok p).1 := by
  obtain ⟨lines, adds, drained⟩ := collect_drained .ok s p
  refine ⟨lines, adds, ?_⟩
  generalize (s.collect .ok p).1 = outcome at drained
  cases drained with
  | @all rows made makes =>
    have same : rows.map id = made :=
      Except.ok.inj ((List.mapM_pure (m := Except Error)).symm.trans makes)
    rw [List.map_id] at same
    exact same ▸ .all rows
  | broken rows e => exact .broken rows e
  | refused rows refuses => cases refuses

/-- The lines that one pull on a running statement adds, with its result and what is left of the
iterator: a row is fetched and something is made of it, or the statement is closed. -/
inductive Pulls (d : Driver) (number : Nat) (transform : Transform) (spread : Bool) :
    List Line → Except Error Value → RowIterator d.watched → Prop
  /-- The transform makes a value of the row. -/
  | value {row : Row} {v : Value} (p : d.Prepared) (makes : row.through transform spread = .ok v) :
    Pulls d number transform spread [fetched number row] (.ok v)
      (.reading (p, number) transform spread)
  /-- There are no further rows. -/
  | ended : Pulls d number transform spread
      [.call number (.fetch (.ok none)), .call number .close] (.error .exhausted) .finished
  /-- Fetching fails. -/
  | broken (e : Error) : Pulls d number transform spread
      [.call number (.fetch (.error e)), .call number .close] (.error e) .finished
  /-- The transform refuses the row. -/
  | refused {row : Row} {e : Error} (refuses : row.through transform spread = .error e) :
    Pulls d number transform spread [fetched number row, .call number .close] (.error e) .finished

/-- Pulling from a running statement. -/
theorem advance_watched (s : Session d.watched) (p : d.watched.Prepared) (transform : Transform)
    (spread : Bool) :
    ∃ lines, Adds lines s (RowIterator.advance s p transform spread).2.2 ∧
      Pulls d p.2 transform spread lines (RowIterator.advance s p transform spread).1
        (RowIterator.advance s p transform spread).2.1 := by
  unfold RowIterator.advance
  split
  · rename_i e p' s' failed
    exact ⟨_, adds_fetch_close failed, .broken e⟩
  · rename_i p' s' ended
    exact ⟨_, adds_fetch_close ended, .ended⟩
  · rename_i row p' s' found
    cases makes : row.through transform spread with
    | error e => exact ⟨_, adds_fetch_close found, .refused makes⟩
    | ok v =>
      have asked := adds_fetch s p
      have number : p.2 = p'.2 := congrArg (fun r => r.2.1.2) found
      have whole : p' = (p'.1, p.2) := Prod.ext rfl number.symm
      rw [found] at asked
      refine ⟨_, asked, ?_⟩
      rw [whole]
      exact .value p'.1 makes

end Session

end SqlBuilder
