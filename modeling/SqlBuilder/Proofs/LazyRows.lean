import SqlBuilder.Proofs.Untraced

/-!
# The life of a lazy iterator

An iterator that was made from a statement is pulled, drained or closed, with anything else going on
in between. Before its first pull it makes no use of the driver; then it runs what was compiled when
it was made, gives what the transform makes of the rows of one reply, in order, and closes its
prepared statement. `LazyRows.Life` says what can have become of an iterator, by the uses of its own
prepared statement: those settle what it has given and what is still to come.
-/

set_option autoImplicit false

namespace SqlBuilder

open Session (Served bindings opening)
open Sql (Compiled)

variable {d : Driver}

/-- An iterator with what it was made from and what it has given. -/
structure LazyRows (d : Driver) where
  /-- What was compiled when it was made. -/
  compiled : Compiled
  /-- What is made of each row. -/
  transform : Transform
  /-- Whether the transform takes the values of a row instead of the row. -/
  spread : Bool
  /-- Whether its statement is logged. -/
  logs : Bool
  /-- The iterator. -/
  iterator : RowIterator d.traced
  /-- The number of its prepared statement, from the first pull on. -/
  number : Option Nat := none
  /-- The values that it has given, in order. -/
  given : List Value := []

namespace LazyRows

/-- The number of the prepared statement after a pull: the next one for the first pull. -/
def numberAt (l : LazyRows d) (s : Session d.traced) : Option Nat :=
  match l.iterator with
  | .pending _ _ _ => some s.count
  | _ => l.number

/-- What was given, with what a pull adds: nothing if it fails. -/
def adding (given : List Value) : Except Error (List Value) → List Value
  | .error _ => given
  | .ok values => given ++ values

/-- Pulls the next value. -/
def next (l : LazyRows d) (s : Session d.traced) : LazyRows d × Session d.traced :=
  let (outcome, iterator, s') := l.iterator.next l.logs s
  ({ l with
      iterator := iterator
      number := l.numberAt s
      given := adding l.given (outcome.map fun value => [value]) }, s')

/-- Pulls all remaining values. -/
def rest (l : LazyRows d) (s : Session d.traced) : LazyRows d × Session d.traced :=
  let (outcome, s') := l.iterator.rest l.logs s
  ({ l with
      iterator := .finished
      number := l.numberAt s
      given := adding l.given outcome }, s')

/-- Closes the iterator. -/
def stop (l : LazyRows d) (s : Session d.traced) : LazyRows d × Session d.traced :=
  ({ l with iterator := .finished }, l.iterator.close s)

/-- What the transform makes of a row. -/
def Makes (l : LazyRows d) (row : Row) (value : Value) : Prop :=
  row.through l.transform l.spread = .ok value

end LazyRows

/-! ## Uses of one statement -/

namespace Session

variable {s s' : Session d.traced} {number : Nat}

/-- Further uses of a statement are noted after those made already. -/
theorem usesOf_own {made : List (Use d)} (h : s'.uses = s.uses ++ made.map (Prod.mk number)) :
    s'.usesOf number = s.usesOf number ++ made := by
  rw [usesOf, h, List.filterMap_append, List.filterMap_map, usesOf]
  refine congrArg _ ?_
  have kept : (fun used : Nat × Use d => if used.1 = number then some used.2 else none) ∘
      Prod.mk number = some := by
    funext use
    exact if_pos rfl
  rw [kept, List.filterMap_some]

/-- Uses of other statements do not count. -/
theorem usesOf_other {made : List (Nat × Use d)} (h : s'.uses = s.uses ++ made)
    (other : ∀ used ∈ made, used.1 ≠ number) : s'.usesOf number = s.usesOf number := by
  have none : (made.filterMap fun used => if used.1 = number then some used.2 else none) = [] :=
    List.filterMap_eq_nil_iff.2 fun used hu => if_neg (other used hu)
  rw [usesOf, h, List.filterMap_append, none, List.append_nil, usesOf]

/-- The next number is not in use. -/
theorem usesOf_count (known : ∀ used ∈ s.uses, used.1 < s.count) : s.usesOf s.count = [] :=
  List.filterMap_eq_nil_iff.2 fun used hu => if_neg (Nat.ne_of_lt (known used hu))

end Session

open Session (usesOf_own usesOf_count)

variable (rowsOf : d.RowSource)

namespace LazyRows

/-! ## What can have become of an iterator -/

/-- An iterator whose prepared statement is open: it was opened with what was compiled, one row was
fetched for each value given, and the values are those of the first rows of its reply; the others
are still to come. -/
structure Open (l : LazyRows d) (number : Nat) (p : d.traced.Prepared) (s : Session d.traced) :
    Prop where
  /-- The prepared statement has the number. -/
  numbered : p.2 = number
  /-- What was done with it, and what it gives. -/
  reads : ∃ found done,
    s.usesOf number = opening l.compiled found ++ List.replicate l.given.length .fetch ∧
    rowsOf.rows (rowsOf.reply found) = done ++ rowsOf.coming p.1 ∧
    List.Forall₂ l.Makes done l.given

/-- An iterator whose prepared statement is closed: it was opened with what was compiled, rows were
fetched, it was closed last and only then, and the values are those of the given rows of its
reply. -/
def Over (l : LazyRows d) (number : Nat) (s : Session d.traced)
    (gave : List Row → List Row → Prop) : Prop :=
  ∃ found fetches done,
    s.usesOf number = opening l.compiled found ++ List.replicate fetches .fetch ++ [.close] ∧
    gave done (rowsOf.rows (rowsOf.reply found)) ∧ List.Forall₂ l.Makes done l.given

/-- An iterator that failed to open after a part of the opening was done. -/
inductive Withdrawn (l : LazyRows d) (number : Nat) (s : Session d.traced) : Prop
  /-- Its prepared statement was closed. -/
  | closed {found : d.Connection} {part : List (Use d)}
    (part_of : part <+: bindings 0 l.compiled.params ++ [.execute found])
    (uses : s.usesOf number = .prepare l.compiled.sql :: part ++ [.close])
  /-- The driver failed with an error of another kind than its own. -/
  | foreign {start found : d.Connection} {e : Error} {part : List (Use d)}
    (part_of : part <+: bindings 0 l.compiled.params ++ [.execute found])
    (uses : s.usesOf number = .prepare l.compiled.sql :: part)
    (fails : d.FailsWith l.compiled start e) (other : e.isDriverError = false)

/-- What can have become of an iterator. -/
inductive Life (l : LazyRows d) (s : Session d.traced) : Prop
  /-- It was not pulled: it has no prepared statement. -/
  | fresh (iterator : l.iterator = .pending l.compiled l.transform l.spread)
    (unused : l.number = none) (nothing : l.given = [])
  /-- It was closed before the first pull: it never had a prepared statement. -/
  | abandoned (iterator : l.iterator = .finished) (unused : l.number = none)
    (nothing : l.given = [])
  /-- It failed to open. -/
  | failed {number : Nat} (iterator : l.iterator = .finished) (used : l.number = some number)
    (nothing : l.given = []) (withdrawn : l.Withdrawn number s)
  /-- It is suspended between two rows. -/
  | suspended {number : Nat} {p : d.traced.Prepared}
    (iterator : l.iterator = .reading p l.transform l.spread) (used : l.number = some number)
    (reads : l.Open rowsOf number p s)
  /-- It is finished. -/
  | ended {number : Nat} (iterator : l.iterator = .finished) (used : l.number = some number)
    (closed : l.Over rowsOf number s (· <+: ·))

variable {rowsOf} {l : LazyRows d} {s : Session d.traced} {number : Nat}

/-- The life of an iterator depends on the uses of its own statement only. -/
theorem Life.congr {s' : Session d.traced} (life : l.Life rowsOf s)
    (same : ∀ number, l.number = some number → s'.usesOf number = s.usesOf number) :
    l.Life rowsOf s' := by
  cases life with
  | fresh iterator unused nothing => exact .fresh iterator unused nothing
  | abandoned iterator unused nothing => exact .abandoned iterator unused nothing
  | failed iterator used nothing withdrawn =>
    refine .failed iterator used nothing ?_
    cases withdrawn with
    | closed part_of uses => exact .closed part_of ((same _ used).trans uses)
    | foreign part_of uses fails other =>
      exact .foreign part_of ((same _ used).trans uses) fails other
  | suspended iterator used reads =>
    obtain ⟨numbered, found, done, uses, rows, makes⟩ := reads
    exact .suspended iterator used ⟨numbered, found, done, (same _ used).trans uses, rows, makes⟩
  | ended iterator used closed =>
    obtain ⟨found, fetches, done, uses, first, makes⟩ := closed
    exact .ended iterator used ⟨found, fetches, done, (same _ used).trans uses, first, makes⟩

/-- A statement that was just opened is open. -/
theorem open_of_ran (known : ∀ used ∈ s.uses, used.1 < s.count) (nothing : l.given = [])
    {p : d.traced.Prepared} {s' : Session d.traced} {found : d.Connection}
    (numbered : p.2 = s.count)
    (uses : s'.uses = s.uses ++ (opening l.compiled found).map (Prod.mk s.count))
    (rows : rowsOf.coming p.1 = rowsOf.rows (rowsOf.reply found)) :
    l.Open rowsOf s.count p s' := by
  have made : s'.usesOf s.count = opening l.compiled found := by
    rw [usesOf_own uses, usesOf_count known, List.nil_append]
  refine ⟨numbered, found, [], ?_, rows.symm, ?_⟩
  · rw [made, nothing]
    exact (List.append_nil _).symm
  · rw [nothing]
    exact .nil

/-- A statement that gave one more value is open. -/
theorem Open.yielded {p p' : d.traced.Prepared} (reads : l.Open rowsOf number p s) {row : Row}
    {value : Value} {s' : Session d.traced} (same : p'.2 = p.2) (served : Served p.2 [.fetch] s s')
    (coming : rowsOf.coming p.1 = row :: rowsOf.coming p'.1) (made : l.Makes row value)
    {l' : LazyRows d} (after : l' = { l with
      iterator := .reading p' l.transform l.spread
      number := some number
      given := l.given ++ [value] }) : l'.Open rowsOf number p' s' := by
  -- The row moves from those to come to those that were given.
  obtain ⟨numbered, found, done, uses, rows, makes⟩ := reads
  rw [numbered] at served
  subst after
  refine ⟨same.trans numbered, found, done ++ [row], ?_, ?_, ?_⟩
  · rw [usesOf_own served.uses, uses, List.append_assoc, List.length_append]
    exact congrArg _ List.replicate_succ'.symm
  · rw [rows, coming, List.append_assoc]
    rfl
  · exact List.rel_append makes (.cons made .nil)

/-- An open statement that is closed, maybe after some more rows were fetched. -/
theorem Open.closed {p : d.traced.Prepared} (reads : l.Open rowsOf number p s) {k : Nat}
    {s' : Session d.traced} (served : Served p.2 (List.replicate k .fetch ++ [.close]) s s') :
    ∃ found done,
      s'.usesOf number =
        opening l.compiled found ++ List.replicate (l.given.length + k) .fetch ++ [.close] ∧
      rowsOf.rows (rowsOf.reply found) = done ++ rowsOf.coming p.1 ∧
      List.Forall₂ l.Makes done l.given := by
  obtain ⟨numbered, found, done, uses, rows, makes⟩ := reads
  rw [numbered] at served
  refine ⟨found, done, ?_, rows, makes⟩
  rw [usesOf_own served.uses, uses, ← List.replicate_append_replicate, List.append_assoc,
    List.append_assoc, List.append_assoc]

/-- An open statement that is closed gives no more than it gave. -/
theorem Open.over_of_served {p : d.traced.Prepared} (reads : l.Open rowsOf number p s) {k : Nat}
    {s' : Session d.traced} (served : Served p.2 (List.replicate k .fetch ++ [.close]) s s') :
    l.Over rowsOf number s' (· <+: ·) := by
  obtain ⟨found, done, uses, rows, makes⟩ := reads.closed served
  refine ⟨found, _, done, uses, ?_, makes⟩
  rw [rows]
  exact List.prefix_append _ _

/-- An open statement that is closed after the rows to come gave what the transform makes of all
rows. -/
theorem Open.over_of_all {p : d.traced.Prepared} (reads : l.Open rowsOf number p s) {k : Nat}
    {s' : Session d.traced} (served : Served p.2 (List.replicate k .fetch ++ [.close]) s s')
    {values : List Value} (made : List.Forall₂ l.Makes (rowsOf.coming p.1) values)
    {l' : LazyRows d} (after : l' = { l with
      iterator := .finished
      number := some number
      given := l.given ++ values }) : l'.Over rowsOf number s' (· = ·) := by
  obtain ⟨found, done, uses, rows, makes⟩ := reads.closed served
  subst after
  exact ⟨found, _, _, uses, rows.symm, List.rel_append makes made⟩

/-- What gave all rows gave the first ones. -/
theorem Over.first (complete : l.Over rowsOf number s (· = ·)) :
    l.Over rowsOf number s (· <+: ·) := by
  obtain ⟨found, fetches, done, uses, all, makes⟩ := complete
  exact ⟨found, fetches, done, uses, all ▸ List.prefix_rfl, makes⟩

end LazyRows

end SqlBuilder
