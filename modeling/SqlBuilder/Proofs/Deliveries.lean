import SqlBuilder.Proofs.NativeFailures
import SqlBuilder.Proofs.Pairing

/-!
# What a statement delivers

A statement that was executed delivers rows, one for each fetch, until a fetch finds none or fails.
`Delivers` says which rows and which end. Everything that reads rows goes through the same fetches:
reading all of them at once gives what is made of every row or the first error, and pulling from an
iterator gives what is made of the rows one by one, and then the error at which it ends.
-/

set_option autoImplicit false

namespace SqlBuilder

open Sql (Compiled)

/-- What a reading comes to, given the error that it ended with, if there was one. -/
def endingWith {α : Type} (stop : Option Error) (a : α) : Except Error α :=
  match stop with
  | none => .ok a
  | some e => .error e

/-- What is made of some items up to the first of which nothing can be made, and the error at which
this ends. -/
def madeUpTo {α β : Type} (f : α → Except Error β) (stop : Error) : List α → List β × Error
  | [] => ([], stop)
  | a :: rest =>
    match f a with
    | .error e => ([], e)
    | .ok b => (b :: (madeUpTo f stop rest).1, (madeUpTo f stop rest).2)

/-- When something is made of every item, this ends where the items do. -/
theorem madeUpTo_of_ok {α β : Type} {f : α → Except Error β} {g : α → β}
    (makes : ∀ a, f a = .ok (g a)) (stop : Error) (items : List α) :
    madeUpTo f stop items = (items.map g, stop) := by
  induction items with
  | nil => rfl
  | cons a rest ih => simp only [madeUpTo, makes, ih, List.map_cons]

/-- Functions that agree on the items make the same of them. -/
theorem madeUpTo_congr {α β : Type} {f g : α → Except Error β} (stop : Error) {items : List α}
    (same : ∀ a ∈ items, f a = g a) : madeUpTo f stop items = madeUpTo g stop items := by
  induction items with
  | nil => rfl
  | cons a rest ih =>
    obtain ⟨first, others⟩ := List.forall_mem_cons.1 same
    simp only [madeUpTo, first, ih others]

/-- What is made of items that come from others is made of those. -/
theorem madeUpTo_map {α β γ : Type} (f : β → Except Error γ) (g : α → β) (stop : Error)
    (items : List α) : madeUpTo f stop (items.map g) = madeUpTo (fun a => f (g a)) stop items := by
  induction items with
  | nil => rfl
  | cons a rest ih => simp only [List.map_cons, madeUpTo, ih]

variable {d : Driver}

namespace Session

/-- What the fetches of a statement come to: its rows, one after another, and the error that they
end with, if they do not end for lack of rows. -/
inductive Delivers : Session d → d.Prepared → List Row → Option Error → Prop
  /-- There is no further row. -/
  | ended {s t : Session d} {p q : d.Prepared} (h : s.fetch p = (.ok none, q, t)) :
    Delivers s p [] none
  /-- Fetching fails. -/
  | broken {s t : Session d} {p q : d.Prepared} {e : Error} (h : s.fetch p = (.error e, q, t)) :
    Delivers s p [] (some e)
  /-- A row is fetched. -/
  | row {s t : Session d} {p q : d.Prepared} {row : Row} {rows : List Row} {stop : Option Error}
    (h : s.fetch p = (.ok (some row), q, t)) (later : Delivers t q rows stop) :
    Delivers s p (row :: rows) stop

variable {s t : Session d} {p : d.Prepared} {rows : List Row} {stop : Option Error}

/-- Reading all rows through a function gives what it makes of each of them, if it refuses none and
the fetches do not fail. -/
theorem Delivers.collect {α : Type} (h : s.Delivers p rows stop) (f : Row → Except Error α) :
    (s.collect f p).1 = (rows.mapM f).bind (endingWith stop) := by
  induction h with
  | ended h =>
    rw [collect_of_none h]
    rfl
  | broken h =>
    rw [collect_of_error h]
    rfl
  | @row _ _ _ _ row rows stop h later ih =>
    rw [collect_of_some h, List.mapM_cons]
    cases f row with
    | error e => rfl
    | ok a =>
      dsimp only
      rw [ih]
      cases rows.mapM f with
      | error e => rfl
      -- Rows that were made are lost when a later fetch fails.
      | ok made => cases stop <;> rfl

/-! ## What was bound -/

/-- Values that are accepted one after another are the next values of a statement. -/
theorem prepares_of_bindFrom {sql : String} {given : List (Value × Tag)} {values : List Value}
    {position : Nat} {q : d.Prepared} (h : d.Prepares sql given p)
    (bound : s.bindFrom p position values = (.ok (), q, t)) :
    d.Prepares sql (given ++ values.map fun value => (value, value.tag)) q := by
  induction values generalizing s p position given with
  | nil =>
    cases bound
    rw [List.map_nil, List.append_nil]
    exact h
  | cons value rest ih =>
    cases first : s.bind p position value value.tag with
    | mk outcome after =>
      obtain ⟨p₁, s₁⟩ := after
      rw [bindFrom, first] at bound
      cases outcome with
      | error e => cases bound
      | ok done =>
        have accepted : (d.bind p s.connection position value value.tag).outcome = .ok done :=
          congrArg Prod.fst first
        have same : (d.bind p s.connection position value value.tag).prepared = p₁ :=
          congrArg (fun r => r.2.1) first
        have next := h.accepted s.connection position value value.tag accepted
        rw [same] at next
        have further := ih next bound
        rwa [List.append_assoc] at further

/-- A statement that was launched has all the values that it was launched with. -/
theorem prepares_of_launch {sql : String} {values : List Value} {q : d.Prepared}
    (h : d.Prepares sql [] p) (launched : s.launch p values = (.ok (), q, t)) :
    d.Prepares sql (values.map fun value => (value, value.tag)) q := by
  unfold launch at launched
  split at launched
  · rename_i done p₁ s₁ bound
    have kept : (d.execute p₁ s₁.connection).prepared = q := congrArg (fun r => r.2.1) launched
    exact kept ▸ (prepares_of_bindFrom h bound).executed s₁.connection
  · rename_i refused
    exact absurd launched (refused () q t)

end Session

/-! ## Pulling -/

namespace RowIterator

variable {logs : Bool} {s t : Session d} {p : d.Prepared} {transform : Transform} {spread : Bool}

/-- Pulls one after another give some values and then an error, after which nothing is left to
pull. -/
inductive Yields (logs : Bool) : RowIterator d → Session d → List Value → Error → Prop
  /-- A pull fails. -/
  | stopped {it : RowIterator d} {s t : Session d} {e : Error}
    (h : it.next logs s = (.error e, .finished, t)) : Yields logs it s [] e
  /-- A pull gives a value. -/
  | pulled {it it' : RowIterator d} {s t : Session d} {value : Value} {values : List Value}
    {e : Error} (h : it.next logs s = (.ok value, it', t)) (later : Yields logs it' t values e) :
    Yields logs it s (value :: values) e

/-- Pulls on a statement give what the transform makes of its rows, up to the first that it refuses;
then there is nothing more, or the error of a fetch. -/
theorem yields_of_delivers {rows : List Row} {stop : Option Error}
    (h : s.Delivers p rows stop) :
    Yields logs (.reading p transform spread) s
      (madeUpTo (fun row => row.through transform spread) (stop.getD .exhausted) rows).1
      (madeUpTo (fun row => row.through transform spread) (stop.getD .exhausted) rows).2 := by
  induction h with
  | @ended s t p q h =>
    have pull : (reading p transform spread).next logs s =
        (.error .exhausted, .finished, (t.close q).2) := by
      rw [next, advance, h]
    exact .stopped pull
  | @broken s t p q e h =>
    have pull : (reading p transform spread).next logs s =
        (.error e, .finished, (t.close q).2) := by
      rw [next, advance, h]
    exact .stopped pull
  | @row s t p q row rows stop h later ih =>
    cases made : row.through transform spread with
    | error e =>
      have pull : (reading p transform spread).next logs s =
          (.error e, .finished, (t.close q).2) := by
        simp only [next, advance, h, made]
      simp only [madeUpTo, made]
      exact .stopped pull
    | ok value =>
      have pull : (reading p transform spread).next logs s =
          (.ok value, reading q transform spread, t) := by
        simp only [next, advance, h, made]
      simp only [madeUpTo, made]
      exact .pulled pull ih

/-- The first pull runs the statement. -/
theorem next_pending_of_run {compiled : Compiled} (ran : s.run logs compiled = (.ok p, t)) :
    (pending compiled transform spread).next logs s =
      (reading p transform spread).next logs t := by
  simp only [next, ran]

/-- An iterator that was not pulled yet yields what its statement does. -/
theorem yields_of_run {compiled : Compiled} (ran : s.run logs compiled = (.ok p, t))
    {values : List Value} {e : Error}
    (h : Yields logs (.reading p transform spread) t values e) :
    Yields logs (.pending compiled transform spread) s values e := by
  have same : (pending compiled transform spread).next logs s =
      (reading p transform spread).next logs t :=
    next_pending_of_run ran
  cases h with
  | stopped h => exact .stopped (same.trans h)
  | pulled h later => exact .pulled (same.trans h) later

/-- An iterator whose statement fails to run yields nothing. -/
theorem yields_of_run_error {compiled : Compiled} {e : Error}
    (ran : s.run logs compiled = (.error e, t)) :
    Yields logs (.pending compiled transform spread) s [] e := by
  have pull : (pending compiled transform spread).next logs s = (.error e, .finished, t) := by
    simp only [next, ran]
  exact .stopped pull

end RowIterator

end SqlBuilder
