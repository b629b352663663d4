import SqlBuilder.Proofs.LazyRows

/-!
# Pulling, draining and closing a lazy iterator

Each action on an iterator is described once: `LazyRows.Pulled`, `LazyRows.Drained` and
`LazyRows.Stopped` say what it gives, what becomes of the prepared statement, and the cause of every
ending. From them follows that the life of the iterator goes on and that no other prepared statement
is used (`LazyRows.Stepped`).
-/

set_option autoImplicit false

namespace SqlBuilder

open Session (Breaks Collected Ran Served usesOf_own usesOf_count)

variable {d : Driver} (rowsOf : d.RowSource)

namespace LazyRows

variable {l : LazyRows d} {s : Session d.traced} {number : Nat}

/-! ## What an action does -/

/-- The statement that a pull comes to read, and the session in which it does. -/
inductive Reads (l : LazyRows d) (s : Session d.traced) :
    d.traced.Prepared → Session d.traced → Prop
  /-- It is open already. -/
  | already {p : d.traced.Prepared} (iterator : l.iterator = .reading p l.transform l.spread)
    (used : l.number = some p.2) : Reads l s p s
  /-- The pull opens it with what was compiled when the iterator was made. -/
  | opened {p : d.traced.Prepared} {s' : Session d.traced}
    (iterator : l.iterator = .pending l.compiled l.transform l.spread)
    (run : s.run l.logs l.compiled = (.ok p, s')) (ran : Ran rowsOf s l.compiled (.ok p, s')) :
    Reads l s p s'

/-- The first pull fails to open a statement with what was compiled when the iterator was made. -/
structure Refused (l : LazyRows d) (s : Session d.traced) (e : Error) (s' : Session d.traced) :
    Prop where
  /-- It is the first pull. -/
  iterator : l.iterator = .pending l.compiled l.transform l.spread
  /-- The statement fails to run. -/
  run : s.run l.logs l.compiled = (.error e, s')
  /-- Why it does, and what is done with it. -/
  ran : Ran rowsOf s l.compiled (.error e, s')

/-- What pulling the next value comes to. -/
inductive Pulled (l : LazyRows d) (s : Session d.traced) :
    Except Error Value × LazyRows d × Session d.traced → Prop
  /-- A row is fetched, and what the transform makes of it is given. The statement stays open. -/
  | yields {p p' : d.traced.Prepared} {s₁ s' : Session d.traced} {row : Row} {value : Value}
    (reads : l.Reads rowsOf s p s₁)
    (fetched : (d.fetch p.1 s₁.connection.1).outcome = .ok (some row))
    (rows : rowsOf.coming p.1 = row :: rowsOf.coming p'.1) (makes : l.Makes row value)
    (same : p'.2 = p.2) (served : Served p.2 [.fetch] s₁ s') :
    Pulled l s (.ok value, { l with
      iterator := .reading p' l.transform l.spread
      number := some p.2
      given := l.given ++ [value] }, s')
  /-- There is no further row. The statement is closed, and all rows of its reply were given. -/
  | usedUp {p : d.traced.Prepared} {s₁ s' : Session d.traced} {l' : LazyRows d}
    (reads : l.Reads rowsOf s p s₁) (none : (d.fetch p.1 s₁.connection.1).outcome = .ok none)
    (served : Served p.2 [.fetch, .close] s₁ s')
    (after : l' = { l with iterator := .finished, number := some p.2 })
    (complete : l'.Over rowsOf p.2 s' (· = ·)) : Pulled l s (.error .exhausted, l', s')
  /-- The driver fails to fetch, or the transform fails on the row that is fetched. The statement is
  closed. -/
  | broken {p : d.traced.Prepared} {s₁ s' : Session d.traced} {e : Error}
    (reads : l.Reads rowsOf s p s₁)
    (breaks : Breaks (fun row => row.through l.transform l.spread) s₁ p e)
    (served : Served p.2 [.fetch, .close] s₁ s') :
    Pulled l s (.error e, { l with iterator := .finished, number := some p.2 }, s')
  /-- No statement comes to be read. -/
  | refused {e : Error} {s' : Session d.traced} (refused : l.Refused rowsOf s e s') :
    Pulled l s (.error e, { l with iterator := .finished, number := some s.count }, s')

/-- What pulling all remaining values comes to. -/
inductive Drained (l : LazyRows d) (s : Session d.traced) :
    Except Error (List Value) × LazyRows d × Session d.traced → Prop
  /-- What the transform makes of every further row is given, and so all rows of the reply were. -/
  | all {p : d.traced.Prepared} {s₁ s' : Session d.traced} {values : List Value}
    {l' : LazyRows d} (reads : l.Reads rowsOf s p s₁)
    (collected : Collected rowsOf (fun row => row.through l.transform l.spread) s₁ p
      (.ok values, s'))
    (after : l' = { l with
      iterator := .finished
      number := some p.2
      given := l.given ++ values })
    (complete : l'.Over rowsOf p.2 s' (· = ·)) : Drained l s (.ok values, l', s')
  /-- The driver fails to fetch, or the transform fails, after some further rows. -/
  | broken {p : d.traced.Prepared} {s₁ s' : Session d.traced} {e : Error}
    (reads : l.Reads rowsOf s p s₁)
    (collected : Collected rowsOf (fun row => row.through l.transform l.spread) s₁ p
      (.error e, s')) :
    Drained l s (.error e, { l with iterator := .finished, number := some p.2 }, s')
  /-- No statement comes to be read. -/
  | refused {e : Error} {s' : Session d.traced} (refused : l.Refused rowsOf s e s') :
    Drained l s (.error e, { l with iterator := .finished, number := some s.count }, s')

/-- What closing comes to. -/
inductive Stopped (l : LazyRows d) (s : Session d.traced) : LazyRows d × Session d.traced → Prop
  /-- No statement is open, and nothing is done. -/
  | idle (closed : ∀ p, l.iterator ≠ .reading p l.transform l.spread) :
    Stopped l s ({ l with iterator := .finished }, s)
  /-- The open statement is closed. -/
  | closes {p : d.traced.Prepared} {s' : Session d.traced}
    (iterator : l.iterator = .reading p l.transform l.spread) (used : l.number = some p.2)
    (served : Served p.2 [.close] s s') : Stopped l s ({ l with iterator := .finished }, s')

/-- What an action on an iterator does: its life goes on, and it uses no statement but its own,
which it has already or which is new. -/
structure Stepped (l : LazyRows d) (s : Session d.traced) (result : LazyRows d × Session d.traced) :
    Prop where
  /-- Its life goes on. -/
  life : result.1.Life rowsOf result.2
  /-- The number of statements does not fall. -/
  grows : s.count ≤ result.2.count
  /-- It uses its own statement. -/
  uses : ∃ made, result.2.uses = s.uses ++ made ∧ ∀ used ∈ made, result.1.number = some used.1
  /-- Its statement is the one it has already or a new one. -/
  number : ∀ number, result.1.number = some number →
    l.number = some number ∨ number = s.count ∧ number < result.2.count

/-- An iterator gets from one moment to another with uses of one statement, which it has already or
which is new. -/
structure Reached (l : LazyRows d) (number : Nat) (s s' : Session d.traced) : Prop where
  /-- The number of statements does not fall. -/
  grows : s.count ≤ s'.count
  /-- Only the statement is used. -/
  uses : ∃ made : List (Use d), s'.uses = s.uses ++ made.map (Prod.mk number)
  /-- It is known to the iterator, or it is new. -/
  number : l.number = some number ∨ number = s.count ∧ number < s'.count

variable {rowsOf}

/-- Nothing happens between a moment and itself. -/
theorem Reached.refl (used : l.number = some number) : l.Reached number s s :=
  ⟨Nat.le_refl _, ⟨[], (List.append_nil _).symm⟩, .inl used⟩

/-- Running a statement. -/
theorem reached_of_run {s' : Session d.traced} {made : List (Use d)}
    (count : s'.count = s.count + 1) (uses : s'.uses = s.uses ++ made.map (Prod.mk s.count)) :
    l.Reached s.count s s' :=
  ⟨by omega, ⟨made, uses⟩, .inr ⟨rfl, by omega⟩⟩

/-- Further uses of the statement. -/
theorem Reached.served {s' s'' : Session d.traced} {more : List (Use d)}
    (h : l.Reached number s s') (served : Served number more s' s'') : l.Reached number s s'' := by
  obtain ⟨grows, ⟨made, uses⟩, known⟩ := h
  rw [← served.count] at grows known
  refine ⟨grows, ⟨made ++ more, ?_⟩, known⟩
  rw [served.uses, uses, List.append_assoc, List.map_append]

/-- An iterator does no more than to use the statement. -/
theorem Reached.stepped {s' : Session d.traced} {l' : LazyRows d} (h : l.Reached number s s')
    (used : l'.number = some number) (life : l'.Life rowsOf s') :
    Stepped rowsOf l s (l', s') := by
  obtain ⟨grows, ⟨made, uses⟩, known⟩ := h
  refine ⟨life, grows, ⟨_, uses, ?_⟩, ?_⟩
  · intro use hu
    obtain ⟨_, -, rfl⟩ := List.mem_map.1 hu
    exact used
  · intro n hn
    obtain rfl : number = n := Option.some.inj (used.symm.trans hn)
    exact known

/-- An action without a use of the driver. -/
theorem stepped_of_life {l' : LazyRows d} (life : l'.Life rowsOf s) (same : l'.number = l.number) :
    Stepped rowsOf l s (l', s) :=
  ⟨life, Nat.le_refl _, ⟨[], (List.append_nil _).symm, fun _ h => by cases h⟩,
    fun _ used => .inl (same ▸ used)⟩

/-! ## Finished iterators -/

/-- Pulling from a finished iterator changes nothing. -/
theorem next_of_finished (iterator : l.iterator = .finished) : l.next s = (l, s) := by
  simp only [LazyRows.next, numberAt, iterator, RowIterator.next_finished]
  rw [← iterator]
  rfl

/-- Pulling all from a finished iterator changes nothing. -/
theorem rest_of_finished (iterator : l.iterator = .finished) : l.rest s = (l, s) := by
  simp only [LazyRows.rest, numberAt, iterator, RowIterator.rest_finished, adding,
    List.append_nil]
  rw [← iterator]

/-- Closing a finished iterator changes nothing. -/
theorem stop_of_finished (iterator : l.iterator = .finished) : l.stop s = (l, s) := by
  simp only [LazyRows.stop, iterator, RowIterator.close_finished]
  rw [← iterator]

/-! ## The first pull, and the later ones -/

section Pulls

variable {p : d.traced.Prepared} {e : Error} {s₁ s' : Session d.traced}

/-- A pull advances the statement that it reads. -/
theorem Reads.next (reads : l.Reads rowsOf s p s₁) :
    l.iterator.next l.logs s = RowIterator.advance s₁ p l.transform l.spread ∧
      l.numberAt s = some p.2 := by
  cases reads with
  | already iterator used => simp only [numberAt, iterator, RowIterator.next, used, and_self]
  | opened iterator run ran =>
    cases ran with
    | opened numbered => simp only [numberAt, iterator, RowIterator.next, run, numbered, and_self]

/-- A pull of all values collects them from the statement that it reads. -/
theorem Reads.rest (reads : l.Reads rowsOf s p s₁) :
    l.iterator.rest l.logs s = s₁.collect (fun row => row.through l.transform l.spread) p := by
  cases reads with
  | already iterator => simp only [iterator, RowIterator.rest]
  | opened iterator run => simp only [iterator, RowIterator.rest, run]

/-- A statement that is read is open, and it is the iterator's own or a new one. -/
theorem Reads.reached (reads : l.Reads rowsOf s p s₁) (life : l.Life rowsOf s)
    (known : ∀ used ∈ s.uses, used.1 < s.count) :
    l.Reached p.2 s s₁ ∧ l.Open rowsOf p.2 p s₁ := by
  cases reads with
  | already iterator used =>
    refine ⟨.refl used, ?_⟩
    cases life with
    | suspended iterator' used' reads =>
      obtain rfl := (RowIterator.reading.inj (iterator.symm.trans iterator')).1
      obtain rfl := Option.some.inj (used.symm.trans used')
      exact reads
    | fresh iterator' | abandoned iterator' | failed iterator' | ended iterator' =>
      rw [iterator] at iterator'
      cases iterator'
  | opened iterator run ran =>
    have nothing : l.given = [] := by
      cases life with
      | fresh _ _ nothing => exact nothing
      | suspended iterator' | abandoned iterator' | failed iterator' | ended iterator' =>
        rw [iterator] at iterator'
        cases iterator'
    cases ran with
    | opened numbered count uses executes rows =>
      rw [numbered]
      exact ⟨reached_of_run count uses, open_of_ran known nothing numbered uses rows⟩

/-- A pull that fails to open a statement gives the error. -/
theorem Refused.next (refused : l.Refused rowsOf s e s') :
    l.iterator.next l.logs s = (.error e, .finished, s') ∧ l.numberAt s = some s.count := by
  simp only [numberAt, refused.iterator, RowIterator.next, refused.run, and_self]

/-- A pull of all values that fails to open a statement gives the error. -/
theorem Refused.rest (refused : l.Refused rowsOf s e s') :
    l.iterator.rest l.logs s = (.error e, s') := by
  simp only [refused.iterator, RowIterator.rest, refused.run]

/-- A pull that fails to open a statement leaves an iterator that failed. -/
theorem Refused.stepped (refused : l.Refused rowsOf s e s') (life : l.Life rowsOf s)
    (known : ∀ used ∈ s.uses, used.1 < s.count) :
    Stepped rowsOf l s ({ l with iterator := .finished, number := some s.count }, s') := by
  have nothing : l.given = [] := by
    cases life with
    | fresh _ _ nothing => exact nothing
    | suspended iterator | abandoned iterator | failed iterator | ended iterator =>
      rw [refused.iterator] at iterator
      cases iterator
  cases refused.ran with
  | @refused _ _ found made closing count part uses cause closed =>
    refine (reached_of_run count uses).stepped rfl (.failed rfl rfl nothing ?_)
    have own := usesOf_own uses
    rw [usesOf_count known, List.nil_append] at own
    rcases closed with rfl | ⟨rfl, fails, other⟩
    · exact .closed part own
    · rw [List.append_nil] at own
      exact .foreign part own fails other

/-- A pull from an iterator that is not finished reads a statement or fails to open it. -/
theorem Life.turn (life : l.Life rowsOf s) (live : l.iterator ≠ .finished) :
    (∃ p s₁, l.Reads rowsOf s p s₁) ∨ ∃ e s', l.Refused rowsOf s e s' := by
  -- An iterator that is not finished has yet to open its statement, or it has it open.
  cases life with
  | fresh iterator unused nothing =>
    have ran := Session.ran rowsOf s l.logs l.compiled
    cases run : s.run l.logs l.compiled with
    | mk outcome s₁ =>
      rw [run] at ran
      cases outcome with
      | error e => exact .inr ⟨e, s₁, iterator, run, ran⟩
      | ok p => exact .inl ⟨p, s₁, .opened iterator run ran⟩
  | suspended iterator used reads =>
    obtain rfl := reads.numbered
    exact .inl ⟨_, s, .already iterator used⟩
  | abandoned iterator | failed iterator | ended iterator => exact absurd iterator live

end Pulls

section Actions

variable (life : l.Life rowsOf s) (known : ∀ used ∈ s.uses, used.1 < s.count)

include life known

/-- What pulling the next value from an iterator comes to that is not finished. -/
theorem Life.pulled (live : l.iterator ≠ .finished) :
    l.Pulled rowsOf s ((l.iterator.next l.logs s).1, l.next s) := by
  rcases life.turn live with ⟨p, s₁, reads⟩ | ⟨e, s', refused⟩
  · obtain ⟨next, numbered⟩ := reads.next
    have pulled := Session.advanced rowsOf s₁ p l.transform l.spread
    rw [← next] at pulled
    unfold LazyRows.next
    generalize l.iterator.next l.logs s = result at pulled
    rw [numbered]
    cases pulled with
    | yields same served fetched rows made => exact .yields reads fetched rows made same served
    | ends served halts =>
      cases halts with
      | breaks breaks => exact .broken reads breaks served
      | usedUp none =>
        -- No row is to come, so what was given before is all of it.
        have nothing : List.Forall₂ l.Makes (rowsOf.coming p.1) [] := by
          rw [rowsOf.exhausted none]
          exact .nil
        have after : ({ l with iterator := .finished, number := some p.2 } : LazyRows d) =
            { l with
              iterator := .finished
              number := some p.2
              given := l.given ++ [] } := by rw [List.append_nil]
        exact .usedUp reads none served rfl
          ((reads.reached life known).2.over_of_all (k := 1) served nothing after)
  · obtain ⟨next, numbered⟩ := refused.next
    unfold LazyRows.next
    rw [next, numbered]
    exact .refused refused

/-- What pulling all remaining values from an iterator comes to that is not finished. -/
theorem Life.drained (live : l.iterator ≠ .finished) :
    l.Drained rowsOf s ((l.iterator.rest l.logs s).1, l.rest s) := by
  rcases life.turn live with ⟨p, s₁, reads⟩ | ⟨e, s', refused⟩
  · have drained := Session.collected rowsOf (fun row => row.through l.transform l.spread) s₁ p
    rw [← reads.rest] at drained
    unfold LazyRows.rest
    rw [reads.next.2]
    generalize l.iterator.rest l.logs s = result at drained
    obtain ⟨outcome, s'⟩ := result
    cases outcome with
    | error e => exact .broken reads drained
    | ok values =>
      refine .all reads drained rfl ?_
      cases drained with
      | all served made => exact (reads.reached life known).2.over_of_all served made rfl
  · unfold LazyRows.rest
    rw [refused.rest, refused.next.2]
    exact .refused refused

/-- Pulling the next value. -/
theorem Life.next : Stepped rowsOf l s (l.next s) := by
  by_cases live : l.iterator = .finished
  · rw [next_of_finished live]
    exact stepped_of_life life rfl
  · have pulled := life.pulled known live
    generalize (l.iterator.next l.logs s).1 = outcome, l.next s = result at pulled ⊢
    cases pulled with
    | yields reads fetched rows makes same served =>
      obtain ⟨reached, opened⟩ := reads.reached life known
      exact (reached.served served).stepped rfl
        (.suspended rfl rfl (opened.yielded same served rows makes rfl))
    | usedUp reads none served after complete =>
      obtain ⟨reached, -⟩ := reads.reached life known
      subst after
      exact (reached.served served).stepped rfl (.ended rfl rfl complete.first)
    | broken reads breaks served =>
      obtain ⟨reached, opened⟩ := reads.reached life known
      exact (reached.served served).stepped rfl
        (.ended rfl rfl (opened.over_of_served (k := 1) served))
    | refused refused => exact refused.stepped life known

/-- Pulling all remaining values. -/
theorem Life.rest : Stepped rowsOf l s (l.rest s) := by
  by_cases live : l.iterator = .finished
  · rw [rest_of_finished live]
    exact stepped_of_life life rfl
  · have drained := life.drained known live
    generalize (l.iterator.rest l.logs s).1 = outcome, l.rest s = result at drained ⊢
    cases drained with
    | all reads collected after complete =>
      obtain ⟨reached, -⟩ := reads.reached life known
      subst after
      cases collected with
      | all served => exact (reached.served served).stepped rfl (.ended rfl rfl complete.first)
    | broken reads collected =>
      obtain ⟨reached, opened⟩ := reads.reached life known
      cases collected with
      | broken fetched rows made breaks served =>
        exact (reached.served served).stepped rfl
          (.ended rfl rfl (opened.over_of_served served))
    | refused refused => exact refused.stepped life known

omit known in
/-- What closing an iterator comes to. -/
theorem Life.stopped : l.Stopped s (l.stop s) := by
  have idle (closed : ∀ p, l.iterator ≠ .reading p l.transform l.spread)
      (same : l.iterator.close s = s) : l.Stopped s (l.stop s) := by
    unfold LazyRows.stop
    rw [same]
    exact .idle closed
  cases life with
  | fresh iterator =>
    rw [iterator] at idle
    exact idle nofun (RowIterator.close_pending _ _ _ s)
  | suspended iterator used reads =>
    obtain rfl := reads.numbered
    simp only [LazyRows.stop, iterator, RowIterator.close]
    exact .closes iterator used (Session.served_close s _)
  | abandoned iterator | failed iterator | ended iterator =>
    rw [iterator] at idle
    exact idle nofun (RowIterator.close_finished s)

omit known in
/-- Closing an iterator. -/
theorem Life.stop : Stepped rowsOf l s (l.stop s) := by
  have stopped := life.stopped
  generalize l.stop s = result at stopped ⊢
  cases stopped with
  | closes iterator used served =>
    cases life with
    | suspended iterator' used' reads =>
      obtain rfl := (RowIterator.reading.inj (iterator.symm.trans iterator')).1
      obtain rfl := reads.numbered
      exact ((Reached.refl used).served served).stepped used
        (.ended rfl used (reads.over_of_served (k := 0) served))
    | fresh iterator' | abandoned iterator' | failed iterator' | ended iterator' =>
      rw [iterator] at iterator'
      cases iterator'
  | idle closed =>
    refine stepped_of_life ?_ rfl
    cases life with
    | fresh iterator unused nothing => exact .abandoned rfl unused nothing
    | abandoned iterator unused nothing => exact .abandoned rfl unused nothing
    | failed iterator used nothing withdrawn =>
      refine .failed rfl used nothing ?_
      cases withdrawn with
      | closed part_of uses => exact .closed part_of uses
      | foreign part_of uses fails other => exact .foreign part_of uses fails other
    | suspended iterator => exact absurd iterator (closed _)
    | ended iterator used closed => exact .ended rfl used closed

end Actions

end LazyRows

end SqlBuilder
