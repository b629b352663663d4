import SqlBuilder.Proofs.Watching

/-!
# The course of a prepared statement

From its preparation to its end a statement takes one of four courses: its calls succeed and it is
closed; a fetch fails and it is closed; binding or executing fails in this library's terms, the
failure is logged and the statement is closed; or binding or executing fails in any other way, and
the statement is left as it is. This file reads the course off the lines that are added when all
rows are read, a row is inserted, rows are affected, or an iterator is pulled.
-/

set_option autoImplicit false

namespace SqlBuilder

open Sql (Compiled)

namespace Exchange

/-- Whether a call closes the statement. -/
def isClose : Exchange → Bool
  | close => true
  | _ => false

/-- The error that binding or executing comes back with. -/
def refusal? : Exchange → Option Error
  | bind _ _ _ (.error e) | execute (.error e) => some e
  | _ => none

/-- Whether a call succeeds and leaves the statement open. -/
def isSmooth : Exchange → Bool
  | close | bind _ _ _ (.error _) | execute (.error _) | fetch (.error _) => false
  | _ => true

/-- Calls that succeed and leave the statement open. -/
def Smooth (xs : List Exchange) : Prop :=
  ∀ x ∈ xs, x.isSmooth = true

/-- No calls are smooth. -/
theorem smooth_nil : Smooth [] :=
  fun _ member => absurd member List.not_mem_nil

/-- A smooth call before smooth ones. -/
theorem Smooth.cons {x : Exchange} (first : x.isSmooth = true) {xs : List Exchange}
    (h : Smooth xs) : Smooth (x :: xs) :=
  List.forall_mem_cons.2 ⟨first, h⟩

/-- Smooth calls one after another are smooth. -/
theorem Smooth.append {xs ys : List Exchange} (h : Smooth xs) (h' : Smooth ys) :
    Smooth (xs ++ ys) :=
  List.forall_mem_append.2 ⟨h, h'⟩

/-- A smooth call does not close. -/
theorem not_isClose_of_isSmooth {x : Exchange} (h : x.isSmooth = true) : x.isClose = false := by
  cases x with
  | close => cases h
  | _ => rfl

/-- A call that is refused does not close. -/
theorem not_isClose_of_refusal? {x : Exchange} {e : Error} (h : x.refusal? = some e) :
    x.isClose = false := by
  cases x with
  | close => cases h
  | _ => rfl

/-- The way in which a statement that was executed comes to its end. Of the errors in this library's
terms it can end with those of a fetch, and those that others raise meanwhile. -/
inductive Ending (raises : Error → Prop) : List Exchange → Option Error → Prop
  /-- All calls succeed, and the statement is closed. -/
  | closed {xs : List Exchange} (smooth : Smooth xs) {error : Option Error}
    (raised : ∀ e, error = some e → e.isDriverError = true → raises e) :
    Ending raises (xs ++ [close]) error
  /-- A fetch fails, and the statement is closed. -/
  | broken {xs : List Exchange} (smooth : Smooth xs) (e : Error) :
    Ending raises (xs ++ [fetch (.error e), close]) (some e)

/-- A statement that is closed after smooth calls ends without an error. -/
theorem Ending.fine {raises : Error → Prop} {xs : List Exchange} (smooth : Smooth xs) :
    Ending raises (xs ++ [close]) none :=
  .closed smooth fun e absent => by cases absent

/-- A statement may be closed because of an error that is not in this library's terms. -/
theorem Ending.foreign {raises : Error → Prop} {xs : List Exchange} (smooth : Smooth xs) {e : Error}
    (foreign : e.isDriverError = false) : Ending raises (xs ++ [close]) (some e) := by
  refine .closed smooth ?_
  intro e' same own
  rw [← Option.some.inj same, foreign] at own
  cases own

/-- Smooth calls may come before the calls that end a statement. -/
theorem Ending.after {raises : Error → Prop} {ys : List Exchange} {error : Option Error}
    (h : Ending raises ys error) {xs : List Exchange} (before : Smooth xs) :
    Ending raises (xs ++ ys) error := by
  cases h with
  | closed smooth raised =>
    rw [← List.append_assoc]
    exact .closed (before.append smooth) raised
  | broken smooth e =>
    rw [← List.append_assoc]
    exact .broken (before.append smooth) e

end Exchange

open Exchange

/-- The error that something ends with. -/
def failureOf {α : Type} : Except Error α → Option Error
  | .error e => some e
  | .ok _ => none

/-- Changing a result does not change the error. -/
@[simp] theorem failureOf_map {α β : Type} (outcome : Except Error α) (f : α → β) :
    failureOf (outcome.map f) = failureOf outcome := by
  cases outcome <;> rfl

/-- Something ends with an error exactly if it is that error. -/
theorem failureOf_eq_some {α : Type} {outcome : Except Error α} {e : Error} :
    failureOf outcome = some e ↔ outcome = .error e := by
  cases outcome with
  | error e' => simp [failureOf]
  | ok a => simp [failureOf]

namespace Session

variable {d : Driver}

/-- The lines of a compiled statement from its preparation to its end, and the error that it ends
with. -/
inductive Course (raises : Error → Prop) (number : Nat) (compiled : Compiled) :
    List Line → Option Error → Prop
  /-- It was executed, and came to its end. -/
  | ended {xs : List Exchange} {error : Option Error} (ending : Ending raises xs error) :
    Course raises number compiled
      (.call number (.prepare compiled.sql) :: xs.map (.call number)) error
  /-- Binding or executing failed in this library's terms. -/
  | logged {xs : List Exchange} (smooth : Smooth xs) {x : Exchange} {e : Error}
    (refuses : x.refusal? = some e) (own : e.isDriverError = true) :
    Course raises number compiled
      (.call number (.prepare compiled.sql) :: xs.map (.call number) ++ [.call number x,
        .log .error (failureMessage compiled), .call number .close]) (some e)
  /-- Binding or executing failed in any other way. -/
  | abandoned {xs : List Exchange} (smooth : Smooth xs) {x : Exchange} {e : Error}
    (refuses : x.refusal? = some e) (foreign : e.isDriverError = false) :
    Course raises number compiled
      (.call number (.prepare compiled.sql) :: xs.map (.call number) ++ [.call number x]) (some e)

/-! ## Opening -/

/-- Values that are accepted are calls that succeed. -/
theorem accepted_smooth (number position : Nat) (values : List Value) :
    ∃ xs, accepted number position values = xs.map (Line.call number) ∧ Smooth xs := by
  induction values generalizing position with
  | nil => exact ⟨[], rfl, smooth_nil⟩
  | cons value rest ih =>
    obtain ⟨xs, same, smooth⟩ := ih (position + 1)
    refine ⟨.bind position value value.tag (.ok ()) :: xs, ?_, smooth.cons rfl⟩
    rw [accepted, same, List.map_cons]

variable {number : Nat} {compiled : Compiled} {start : d.Connection} {lines : List Line}

/-- A statement that was executed was opened by calls that succeed. -/
theorem Tried.smooth {p : d.Prepared} (h : Tried d number compiled start lines (.ok p)) :
    ∃ xs, lines = xs.map (Line.call number) ∧ Smooth xs := by
  cases h with
  | executed executes =>
    obtain ⟨xs, accepts, smooth⟩ := accepted_smooth number 0 compiled.params
    refine ⟨xs ++ [.execute (.ok ())], ?_, smooth.append (smooth_nil.cons rfl)⟩
    rw [accepts, List.map_append]
    rfl

/-- A statement that fails to open fails with the last call. -/
theorem Tried.refused {e : Error} (h : Tried d number compiled start lines (.error e)) :
    ∃ xs x, lines = xs.map (Line.call number) ++ [.call number x] ∧ Smooth xs ∧
      x.refusal? = some e := by
  cases h with
  | notBound params took failed =>
    obtain ⟨xs, accepts, smooth⟩ := accepted_smooth number 0 _
    exact ⟨xs, _, congrArg (· ++ _) accepts, smooth, rfl⟩
  | notExecuted took failed =>
    obtain ⟨xs, accepts, smooth⟩ := accepted_smooth number 0 compiled.params
    exact ⟨xs, _, congrArg (· ++ _) accepts, smooth, rfl⟩

/-- A statement that does not come to be read is at its end. -/
theorem Attempted.course {e : Error} (h : Attempted d number compiled start lines (.error e))
    (raises : Error → Prop) : Course raises number compiled lines (some e) := by
  cases h with
  | failed tried =>
    obtain ⟨xs, x, rfl, smooth, refuses⟩ := tried.refused
    -- Only a failure in this library's terms has an aftermath.
    rw [aftermath]
    cases own : e.isDriverError with
    | true =>
      rw [if_pos rfl, List.append_assoc, ← List.cons_append]
      exact .logged smooth refuses own
    | false =>
      rw [if_neg Bool.false_ne_true, List.append_nil, ← List.cons_append]
      exact .abandoned smooth refuses own
  | @duplicates _ p name names tried repeated =>
    obtain ⟨xs, rfl, smooth⟩ := tried.smooth
    have course : Course raises number compiled
        (.call number (.prepare compiled.sql) :: (xs ++ [Exchange.close]).map (.call number))
        (some (.duplicateColumns (name :: names))) := .ended (.foreign smooth rfl)
    rwa [List.map_append] at course

/-- A statement that is open was opened by calls that succeed. -/
theorem Attempted.smooth {p : d.watched.Prepared}
    (h : Attempted d number compiled start lines (.ok p)) :
    p.2 = number ∧ ∃ xs, lines = .call number (.prepare compiled.sql) :: xs.map (Line.call number) ∧
      Smooth xs := by
  cases h with
  | opened tried distinct =>
    obtain ⟨xs, rfl, smooth⟩ := tried.smooth
    exact ⟨rfl, xs, rfl, smooth⟩

/-! ## Reading -/

/-- Fetching rows is smooth. -/
theorem fetched_smooth (number : Nat) (rows : List Row) :
    ∃ xs, rows.map (fetched number) = xs.map (Line.call number) ∧ Smooth xs := by
  refine ⟨rows.map fun row => .fetch (.ok (some row)), ?_, ?_⟩
  · rw [List.map_map]
    rfl
  · intro x member
    obtain ⟨row, -, rfl⟩ := List.mem_map.1 member
    rfl

/-- Reading rows comes to an end; the errors that the function raises are among the others. -/
theorem Drained.ending {α : Type} {f : Row → Except Error α} {outcome : Except Error (List α)}
    (h : Drained number f lines outcome) {raises : Error → Prop}
    (raised : ∀ row e, f row = .error e → e.isDriverError = true → raises e) :
    ∃ xs, lines = xs.map (Line.call number) ∧ Ending raises xs (failureOf outcome) := by
  cases h with
  | @all rows made makes =>
    obtain ⟨xs, same, smooth⟩ := fetched_smooth number rows
    refine ⟨xs ++ [.fetch (.ok none)] ++ [.close], ?_, .fine (smooth.append (smooth_nil.cons rfl))⟩
    rw [same, List.append_assoc, List.map_append]
    rfl
  | broken rows e =>
    obtain ⟨xs, same, smooth⟩ := fetched_smooth number rows
    refine ⟨_, ?_, .broken smooth e⟩
    rw [same, List.map_append]
    rfl
  | @refused rows row e refuses =>
    obtain ⟨xs, same, smooth⟩ := fetched_smooth number rows
    refine ⟨xs ++ [.fetch (.ok (some row))] ++ [.close], ?_,
      .closed (smooth.append (smooth_nil.cons rfl)) ?_⟩
    · rw [same, List.append_assoc, List.map_append]
      rfl
    · intro e' same own
      rw [← Option.some.inj same] at own ⊢
      exact raised row e refuses own

/-! ## Whole uses -/

/-- A use of a session by which one statement is prepared and comes to its end. -/
def Uses (raises : Error → Prop) (logs : Bool) (compiled : Compiled) (s s' : Session d.watched)
    (error : Option Error) : Prop :=
  s'.prepares = s.prepares + 1 ∧ ∃ lines,
    s'.lines =
      s.lines ++ (announcement (d := d.watched) logs compiled).map Entry.line ++ lines ∧
    Course raises s.prepares compiled lines error

/-- A use of a session by which one statement is prepared and runs, without a failure so far. -/
def Opens (logs : Bool) (compiled : Compiled) (s s' : Session d.watched) : Prop :=
  s'.prepares = s.prepares + 1 ∧ ∃ xs, Smooth xs ∧
    s'.lines = s.lines ++ (announcement (d := d.watched) logs compiled).map Entry.line ++
      .call s.prepares (.prepare compiled.sql) :: xs.map (Line.call s.prepares)

section Uses

variable {s t t' : Session d.watched} {logs : Bool} {compiled : Compiled} {raises : Error → Prop}

/-- A statement that runs goes on running after smooth calls. -/
theorem Opens.on (h : Opens logs compiled s t) {ys : List Exchange}
    (adds : Adds (ys.map (Line.call s.prepares)) t t') (smooth : Smooth ys) :
    Opens logs compiled s t' := by
  obtain ⟨prepares, xs, before, added⟩ := h
  refine ⟨adds.prepares.trans prepares, xs ++ ys, before.append smooth, ?_⟩
  rw [adds.lines, added, List.map_append, List.append_assoc, List.cons_append]

/-- A statement that runs comes to its end. -/
theorem Opens.closes (h : Opens logs compiled s t) {ys : List Exchange}
    (adds : Adds (ys.map (Line.call s.prepares)) t t') {error : Option Error}
    (ending : Ending raises ys error) : Uses raises logs compiled s t' error := by
  obtain ⟨prepares, xs, before, added⟩ := h
  refine ⟨adds.prepares.trans prepares, _, ?_, .ended (ending.after before)⟩
  rw [adds.lines, added, List.map_append, List.append_assoc, List.cons_append]

/-- A compiled statement that does not get to run has come to its end. -/
theorem uses_of_run_error {e : Error} (h : s.run logs compiled = (.error e, t)) :
    Uses raises logs compiled s t (some e) := by
  obtain ⟨prepares, lines, added, attempted⟩ := run_attempted s logs compiled
  rw [h] at prepares added attempted
  exact ⟨prepares, lines, added, attempted.course raises⟩

/-- A compiled statement that gets to run is the one that was prepared last, and has not failed so
far. -/
theorem opens_of_run {p : d.watched.Prepared} (h : s.run logs compiled = (.ok p, t)) :
    p.2 = s.prepares ∧ Opens logs compiled s t := by
  obtain ⟨prepares, lines, added, attempted⟩ := run_attempted s logs compiled
  rw [h] at prepares added attempted
  obtain ⟨number, xs, rfl, smooth⟩ := attempted.smooth
  exact ⟨number, prepares, xs, smooth, added⟩

/-- A compiled statement that gets to run and is closed has come to its end. -/
theorem uses_of_close {p : d.watched.Prepared} (h : s.run logs compiled = (.ok p, t)) :
    Uses raises logs compiled s (t.close p).2 none := by
  obtain ⟨number, opens⟩ := opens_of_run h
  have adds : Adds ([Exchange.close].map (Line.call p.2)) t (t.close p).2 := adds_close t p
  have ending : Ending raises ([] ++ [.close]) none := .fine smooth_nil
  rw [number] at adds
  exact opens.closes adds ending

/-- A statement whose rows are read through a function. -/
theorem uses_of_collect {p : d.watched.Prepared} (h : s.run logs compiled = (.ok p, t)) {α : Type}
    (f : Row → Except Error α)
    (raised : ∀ row e, f row = .error e → e.isDriverError = true → raises e) :
    Uses raises logs compiled s (t.collect f p).2 (failureOf (t.collect f p).1) := by
  obtain ⟨number, opens⟩ := opens_of_run h
  obtain ⟨lines, adds, drained⟩ := collect_drained f t p
  obtain ⟨ys, rfl, ending⟩ := drained.ending raised
  rw [number] at adds
  exact opens.closes adds ending

variable (raises s logs compiled)

/-- Reading all rows is a use of one statement, and ends with the error that it gives. -/
theorem uses_fetchAll : Uses raises logs compiled s (s.fetchAll logs compiled).2
    (failureOf (s.fetchAll logs compiled).1) := by
  unfold fetchAll
  cases ran : s.run logs compiled with
  | mk outcome t =>
    cases outcome with
    | error e => exact uses_of_run_error ran
    | ok p => exact uses_of_collect ran .ok fun row e refuses => by cases refuses

/-- Inserting is a use of one statement, and ends with the error that it gives. -/
theorem uses_insert : Uses raises logs compiled s (s.insert logs compiled).2
    (failureOf (s.insert logs compiled).1) := by
  unfold insert
  cases ran : s.run logs compiled with
  | mk outcome t =>
    cases outcome with
    | error e => exact uses_of_run_error ran
    | ok p => exact uses_of_close ran

/-- An UPDATE or a DELETE is a use of one statement, and ends with the error that it gives. -/
theorem uses_affect : Uses raises logs compiled s (s.affect logs compiled).2
    (failureOf (s.affect logs compiled).1) := by
  unfold affect
  cases ran : s.run logs compiled with
  | mk outcome t =>
    cases outcome with
    | error e => exact uses_of_run_error ran
    | ok p => exact uses_of_close ran

end Uses

end Session

/-! ## Pulls -/

namespace RowIterator

variable {d : Driver}

open Session

/-- The errors that a transform raises on some row. -/
def Raises (transform : Transform) (spread : Bool) (e : Error) : Prop :=
  ∃ row : Row, row.through transform spread = .error e

/-- What a pull on a running statement makes of it: it runs on, or comes to its end. -/
inductive Turn (d : Driver) (number : Nat) (transform : Transform) (spread : Bool) :
    List Exchange → Except Error Value → RowIterator d.watched → Prop
  /-- There is a value, and the statement runs on. -/
  | running {xs : List Exchange} (smooth : Smooth xs) (v : Value) (p : d.Prepared) :
    Turn d number transform spread xs (.ok v) (.reading (p, number) transform spread)
  /-- There is none, and the statement is at its end. -/
  | closed {xs : List Exchange} {e : Error}
    (ending : Ending (Raises transform spread) xs (some e)) :
    Turn d number transform spread xs (.error e) .finished

/-- A pull on a running statement adds calls on that statement only, by which it runs on or ends. -/
theorem advance_turn (s : Session d.watched) (p : d.watched.Prepared) (transform : Transform)
    (spread : Bool) :
    ∃ xs, Adds (xs.map (Line.call p.2)) s (advance s p transform spread).2.2 ∧
      Turn d p.2 transform spread xs (advance s p transform spread).1
        (advance s p transform spread).2.1 := by
  obtain ⟨lines, adds, pulls⟩ := advance_watched s p transform spread
  generalize advance s p transform spread = result at adds pulls ⊢
  obtain ⟨outcome, it, s'⟩ := result
  dsimp only at adds pulls ⊢
  cases pulls with
  | @value row v q makes =>
    exact ⟨[.fetch (.ok (some row))], adds, .running (smooth_nil.cons rfl) v q⟩
  | ended =>
    have ending : Ending (Raises transform spread) ([.fetch (.ok none)] ++ [.close])
        (some .exhausted) := .foreign (smooth_nil.cons rfl) rfl
    exact ⟨[.fetch (.ok none), .close], adds, .closed ending⟩
  | broken e =>
    have ending : Ending (Raises transform spread) ([] ++ [.fetch (.error e), .close]) (some e) :=
      .broken smooth_nil e
    exact ⟨[.fetch (.error e), .close], adds, .closed ending⟩
  | @refused row e refuses =>
    have ending : Ending (Raises transform spread) ([.fetch (.ok (some row))] ++ [.close])
        (some e) := by
      refine .closed (smooth_nil.cons rfl) ?_
      intro e' same _
      exact ⟨row, Option.some.inj same ▸ refuses⟩
    exact ⟨[.fetch (.ok (some row)), .close], adds, .closed ending⟩

section First

variable (compiled : Compiled) (transform : Transform) (spread logs : Bool) (s : Session d.watched)

/-- The first pull runs the statement: there is a value and it runs on, or it comes to its end. -/
theorem next_pending :
    (∃ v p s', (pending compiled transform spread).next logs s =
        (.ok v, .reading (p, s.prepares) transform spread, s') ∧ Opens logs compiled s s') ∨
      ∃ e s', (pending compiled transform spread).next logs s = (.error e, .finished, s') ∧
        Uses (Raises transform spread) logs compiled s s' (some e) := by
  simp only [next]
  cases ran : s.run logs compiled with
  | mk outcome t =>
    cases outcome with
    | error e => exact .inr ⟨e, t, rfl, uses_of_run_error ran⟩
    | ok p =>
      obtain ⟨number, opens⟩ := opens_of_run ran
      -- The statement was prepared by this pull, so its number is the next one of `s`.
      obtain ⟨xs, adds, turn⟩ := advance_turn t p transform spread
      rw [number] at adds turn
      dsimp only
      generalize advance t p transform spread = result at adds turn ⊢
      obtain ⟨outcome, it, s'⟩ := result
      dsimp only at adds turn
      cases turn with
      | running smooth v q => exact .inl ⟨v, q, s', rfl, opens.on adds smooth⟩
      | closed ending => exact .inr ⟨_, s', rfl, opens.closes adds ending⟩

/-- Pulling all values of an iterator that was not pulled yet runs the statement to its end. -/
theorem rest_pending : Uses (Raises transform spread) logs compiled s
    ((pending compiled transform spread).rest logs s).2
    (failureOf ((pending compiled transform spread).rest logs s).1) := by
  simp only [rest]
  cases ran : s.run logs compiled with
  | mk outcome t =>
    cases outcome with
    | error e => exact uses_of_run_error ran
    | ok p =>
      apply uses_of_collect ran
      intro row e refuses _
      exact ⟨row, refuses⟩

end First

/-- Pulling a running iterator to its end adds calls on its statement only, by which the statement
ends. -/
theorem rest_reading (s : Session d.watched) (p : d.watched.Prepared) (transform : Transform)
    (spread logs : Bool) :
    ∃ xs, Adds (xs.map (Line.call p.2)) s ((reading p transform spread).rest logs s).2 ∧
      Ending (Raises transform spread) xs
        (failureOf ((reading p transform spread).rest logs s).1) := by
  obtain ⟨lines, adds, drained⟩ := collect_drained (fun row => row.through transform spread) s p
  have raised : ∀ (row : Row) e, row.through transform spread = .error e →
      e.isDriverError = true → Raises transform spread e :=
    fun row e refuses _ => ⟨row, refuses⟩
  obtain ⟨xs, rfl, ending⟩ := drained.ending raised
  exact ⟨xs, adds, ending⟩

end RowIterator

end SqlBuilder
