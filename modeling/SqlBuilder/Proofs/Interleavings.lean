import SqlBuilder.Proofs.LayerFailures
import SqlBuilder.Proofs.Pools

/-!
# Lazy rows under any interleaving

Whatever is done in a pool and in whatever order, an iterator is in one of the states of its life,
and each action on it does what `LazyRows.Pulled`, `LazyRows.Drained` and `LazyRows.Stopped` say.
Its prepared statement is open while it is suspended between two rows, and is closed exactly once
when it is finished, if the driver fails to open it with errors of its own only. What is done
elsewhere in the pool leaves it alone.
-/

set_option autoImplicit false

namespace SqlBuilder

open Session (bindings opening)
open Sql (Compiled)

variable {d : Driver}

/-! ## Closing -/

namespace LazyRows

/-- Whether an iterator is suspended between two rows. -/
def isOpen (l : LazyRows d) : Bool :=
  match l.iterator with
  | .reading _ _ _ => true
  | _ => false

/-- Binding values closes nothing. -/
theorem countP_bindings (position : Nat) (values : List Value) :
    (bindings (d := d) position values).countP Use.isClose = 0 := by
  induction values generalizing position with
  | nil => rfl
  | cons value rest ih => exact ih (position + 1)

/-- The part of an opening that comes after preparing closes nothing. -/
theorem countP_part {values : List Value} {found : d.Connection} {part : List (Use d)}
    (h : part <+: bindings 0 values ++ [.execute found]) : part.countP Use.isClose = 0 := by
  have all : (bindings 0 values ++ [Use.execute found]).countP Use.isClose = 0 := by
    rw [List.countP_append, countP_bindings]
    rfl
  exact Nat.eq_zero_of_le_zero (all ▸ h.sublist.countP_le)

/-- An opening closes nothing. -/
theorem countP_opening (compiled : Compiled) (found : d.Connection) :
    (opening compiled found).countP Use.isClose = 0 := by
  rw [opening, List.countP_cons_of_neg (by exact Bool.false_ne_true)]
  exact countP_part List.prefix_rfl

/-- Fetching closes nothing. -/
theorem countP_fetches (count : Nat) :
    (List.replicate count (Use.fetch (d := d))).countP Use.isClose = 0 := by
  rw [List.countP_replicate]
  rfl

variable {rowsOf : d.RowSource} {l : LazyRows d} {s : Session d.traced}

/-- A prepared statement is closed once when its iterator is finished, and not at all before. -/
theorem Life.countP_isClose (life : l.Life rowsOf s)
    (faults : ∀ start e, d.FailsWith l.compiled start e → e.isDriverError = true) {number : Nat}
    (used : l.number = some number) :
    (s.usesOf number).countP Use.isClose = if l.isOpen then 0 else 1 := by
  cases life with
  | fresh iterator unused nothing =>
    rw [unused] at used
    cases used
  | abandoned iterator unused nothing =>
    rw [unused] at used
    cases used
  | failed iterator used' nothing withdrawn =>
    obtain rfl := Option.some.inj (used'.symm.trans used)
    cases withdrawn with
    | closed part_of uses =>
      rw [uses, isOpen, iterator, List.countP_append]
      exact congrArg (· + 1) (countP_part part_of)
    | foreign part_of uses fails other =>
      rw [faults _ _ fails] at other
      cases other
  | suspended iterator used' reads =>
    obtain rfl := Option.some.inj (used'.symm.trans used)
    obtain ⟨-, found, done, uses, -, -⟩ := reads
    rw [uses, isOpen, iterator, List.countP_append, countP_opening, countP_fetches]
    rfl
  | ended iterator used' closed =>
    obtain rfl := Option.some.inj (used'.symm.trans used)
    obtain ⟨found, k, done, uses, -, -⟩ := closed
    rw [uses, isOpen, iterator, List.countP_append, List.countP_append, countP_opening,
      countP_fetches]
    rfl

/-- Closing an iterator that has no prepared statement does not touch the session. -/
theorem Life.session_stop (life : l.Life rowsOf s) (unused : l.number = none) :
    (l.stop s).2 = s := by
  have stopped := life.stopped
  generalize l.stop s = result at stopped
  cases stopped with
  | idle closed => rfl
  | closes iterator used served =>
    rw [unused] at used
    cases used

end LazyRows

/-! ## Any interleaving -/

/-- What holds of an iterator of a pool at any time. -/
structure Pool.Guarantees (rowsOf : d.RowSource) (pool : Pool d) (index : Nat) (l : LazyRows d) :
    Prop where
  /-- It is in one of the states of its life. -/
  life : l.Life rowsOf pool.session
  /-- Pulling the next value gives what the transform makes of the next row and leaves the statement
  open, or ends it for one of a few causes. -/
  pulls : l.iterator ≠ .finished →
    l.Pulled rowsOf pool.session ((l.iterator.next l.logs pool.session).1, l.next pool.session)
  /-- Pulling all values gives what the transform makes of all further rows, or breaks off for one
  of these causes; the statement is closed. -/
  drains : l.iterator ≠ .finished →
    l.Drained rowsOf pool.session ((l.iterator.rest l.logs pool.session).1, l.rest pool.session)
  /-- Closing it closes the statement that is open, if there is one, and does nothing else. -/
  stops : l.Stopped pool.session (l.stop pool.session)
  /-- Nothing that is done with it changes anything once it is finished. -/
  still : l.iterator = .finished → l.next pool.session = (l, pool.session) ∧
    l.rest pool.session = (l, pool.session) ∧ l.stop pool.session = (l, pool.session)
  /-- Closing it does not touch the session if it has no prepared statement. -/
  idle : l.number = none → (pool.step (.stop index)).session = pool.session
  /-- Its prepared statement is open while it is suspended between rows, and closed exactly once
  when it is finished. -/
  closes : ∀ {number}, l.number = some number →
    (pool.session.usesOf number).countP Use.isClose = if l.isOpen then 0 else 1
  /-- No other iterator has its prepared statement. -/
  own : ∀ {other k number}, pool.iterators[other]? = some k → l.number = some number →
    k.number = some number → other = index
  /-- What is done elsewhere in the pool leaves it and its prepared statement alone. -/
  apart : ∀ {action : Action}, action.iterator? ≠ some index →
    pool.LeavesAlone (pool.step action) index l
  /-- All that is done with it gives and does the same without the trace. -/
  untraced :
    l.iterator.untraced.next l.logs pool.session.untraced =
      ((l.iterator.next l.logs pool.session).1, (l.next pool.session).1.iterator.untraced,
        (l.next pool.session).2.untraced) ∧
    l.iterator.untraced.rest l.logs pool.session.untraced =
      ((l.iterator.rest l.logs pool.session).1, (l.rest pool.session).2.untraced) ∧
    l.iterator.untraced.close pool.session.untraced = (l.stop pool.session).2.untraced

/-- A coherent pool guarantees as much of its iterators. -/
theorem Pool.Coherent.guarantees {rowsOf : d.RowSource} {pool : Pool d}
    (coherent : pool.Coherent rowsOf) {index : Nat} {l : LazyRows d}
    (here : pool.iterators[index]? = some l)
    (faults : ∀ start e, d.FailsWith l.compiled start e → e.isDriverError = true) :
    pool.Guarantees rowsOf index l where
  life := coherent.life l (List.mem_of_getElem? here)
  pulls := (coherent.life l (List.mem_of_getElem? here)).pulled coherent.known
  drains := (coherent.life l (List.mem_of_getElem? here)).drained coherent.known
  stops := (coherent.life l (List.mem_of_getElem? here)).stopped
  still iterator :=
    ⟨LazyRows.next_of_finished iterator, LazyRows.rest_of_finished iterator,
      LazyRows.stop_of_finished iterator⟩
  idle unused := by
    simp only [Pool.step, Pool.withIterator, here]
    exact (coherent.life l (List.mem_of_getElem? here)).session_stop unused
  closes := (coherent.life l (List.mem_of_getElem? here)).countP_isClose faults
  own there used used' := coherent.distinct _ _ _ l _ there here used' used
  apart other := coherent.apart other here
  untraced :=
    ⟨l.iterator.untraced_next l.logs pool.session, l.iterator.untraced_rest l.logs pool.session,
      l.iterator.untraced_close pool.session⟩

/-- An iterator among others, under any interleaving of actions, on a driver that fails to open what
it runs with errors of its own only. Making it does not touch the session. Whatever happens
afterwards, it has no prepared statement before its first pull; from then on it has one of its own,
which was opened with what was compiled when the iterator was made, and its values are what the
transform makes of the first rows of the reply to that. -/
theorem lazy_rows_interleaved (rowsOf : d.RowSource) (connection : d.Connection)
    (before after : List Action) (index : Nat) (transform : Transform) (spread : Bool)
    {start made pool : Pool d} (started : start = (Pool.opened connection).run before)
    (morphs : made = start.step (.morph index transform spread)) (runs : pool = made.run after)
    {st : Statement d.traced} {compiled : Compiled} (found : start.statement? index = some st)
    (compiles : st.state.compile = .ok compiled)
    (faults : ∀ start e, d.FailsWith compiled start e → e.isDriverError = true) :
    made.session = start.session ∧
      ∃ l, pool.iterators[start.iterators.length]? = some l ∧
        l.compiled = compiled ∧ l.transform = transform ∧ l.spread = spread ∧
        pool.Guarantees rowsOf start.iterators.length l := by
  -- The pool is coherent from the start, so also when the iterator is made, and ever after.
  have coherent : pool.Coherent rowsOf := by
    rw [runs, morphs, started]
    exact (((Pool.coherent_opened connection).run before).step _).run after
  obtain ⟨first, added, rfl, rfl, rfl⟩ := Pool.iterators_morphed found compiles transform spread
  have here : made.iterators[start.iterators.length]? = some first := by
    rw [morphs]
    exact (congrArg (·[start.iterators.length]?) added).trans List.getElem?_concat_length
  obtain ⟨l, there, origin⟩ := Pool.origin_run after here
  rw [← runs] at there
  have guarantees := coherent.guarantees there (origin.compiled ▸ faults)
  exact ⟨morphs ▸ Pool.session_morphed _ _ _, l, there, origin.compiled, origin.transform,
    origin.spread, guarantees⟩

/-- A connection of the driver with named binds, with two replies. -/
def turnsConnection : Adapter.named.known.Connection where
  val :=
    ({ script := [{ columns := some ["a"], rows := [[.int 1], [.int 2]] },
        { columns := some ["b"], rows := [[.int 3]] }] } : Connection)
  property := by
    intro reply hr failure failed
    simp only [List.mem_cons, List.not_mem_nil, or_false] at hr
    rcases hr with rfl | rfl <;> cases failed

/-- A pool with one statement that reads the rows of a table that meet a condition. -/
def turnsStart : Pool Adapter.named.known :=
  let text (s : String) : Arg := .value (.text s)
  (Pool.opened turnsConnection).run
    [.create {}, .call 0 (.readFrom (text "t") (.value .null)),
      .call 0 (.require .rows (text "a") (text ">") (.value (.int 0)) (text "AND"))]

/-- Two iterators over statements that share a session, pulled in turn, while one of the statements
is changed and the other runs a mutation. -/
def turns : List Action :=
  let text (s : String) : Arg := .value (.text s)
  [.next 0,
    .call 0 (.require .rows (text "a") (text "=") (.value (.int 1)) (text "AND")),
    .create {},
    .call 1 (.readFrom (text "u") (.value .null)),
    .morph 1 (fun values => .ok (.series .list values)) false,
    .next 1,
    .call 1 .delete,
    .next 0,
    .next 0,
    .stop 1]

/-- The first of the two iterators executes what its statement was when it was made. -/
theorem lazy_rows_interleaved_turns :
    ∃ l,
      ((turnsStart.step (.morph 0 (fun values => .ok (.series .list values)) true)).run
        turns).iterators[0]? = some l ∧
      l.compiled.sql = "SELECT * FROM t WHERE a > ?" ∧
      ((turnsStart.step (.morph 0 (fun values => .ok (.series .list values)) true)).run
        turns).Guarantees (Adapter.named.rows.restrict Adapter.named.keeps_knows) 0 l := by
  have shape : (turnsStart.statement? 0).map (fun st =>
      st.state.compile.toOption.map fun compiled =>
        (compiled.sql, compiled.params.length, compiled.params.all Value.isBindable)) =
      some (some ("SELECT * FROM t WHERE a > ?", 1, true)) := by
    decide +kernel
  have names : (Sql.toNamedBinds "SELECT * FROM t WHERE a > ?") =
      ("SELECT * FROM t WHERE a > :p0", ["p0"]) := by
    decide +kernel
  have offered : Sql.bindNames "SELECT * FROM t WHERE a > :p0" = ["p0"] := by
    decide +kernel
  cases found : turnsStart.statement? 0 with
  | none =>
    rw [found] at shape
    cases shape
  | some st =>
    rw [found, Option.map_some] at shape
    cases compiles : st.state.compile with
    | error e =>
      rw [compiles] at shape
      cases shape
    | ok compiled =>
      rw [compiles] at shape
      obtain ⟨text, rest⟩ := Prod.mk.inj (Option.some.inj (Option.some.inj shape))
      obtain ⟨count, bindable⟩ := Prod.mk.inj rest
      -- The rewritten text has the one name, so the driver fails only as its layer does.
      have asks : Adapter.named.Asks compiled := by
        refine ⟨List.all_eq_true.1 bindable, ?_, ?_⟩
        · rw [text, names, count]
          exact Nat.le_refl 1
        · rw [text, names, offered]
          exact fun name member => List.mem_of_mem_take member
      have faults : ∀ start e, Adapter.named.known.FailsWith compiled start e →
          e.isDriverError = true :=
        fun start e fails => Adapter.own_failures asks start.2 fails.of_restrict
      obtain ⟨-, l, here, origin, -, -, guarantees⟩ :=
        lazy_rows_interleaved (Adapter.named.rows.restrict Adapter.named.keeps_knows)
          turnsConnection
          [.create {}, .call 0 (.readFrom (.value (.text "t")) (.value .null)),
            .call 0 (.require .rows (.value (.text "a")) (.value (.text ">")) (.value (.int 0))
              (.value (.text "AND")))]
          turns 0 (fun values => .ok (.series .list values)) true rfl rfl rfl found compiles faults
      exact ⟨l, here, origin ▸ text, guarantees⟩

end SqlBuilder
