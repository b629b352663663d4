import SqlBuilder.Driver.Recording
import SqlBuilder.Proofs.Adapters
import SqlBuilder.Proofs.Courses
import SqlBuilder.Proofs.Effects

/-!
# Which statements are released

A failure in this library's terms closes the prepared statement before it leaves the run, and so
does a result with repeated column names; a failure of any other kind leaves the statement as it is,
and nobody has it any more. So at any moment of a workspace every prepared statement

* was **released**: it was closed once, by its last call, and neither binding nor executing failed
  in other terms;
* was **abandoned**: its last call is the one that failed in other terms, and it was never closed;
* is **running**, held by exactly one iterator; or
* is **lent**: it was prepared by hand.

The proof follows one number. Each step does one of few things to it (`Workspace.Acts` for
iterators, `Session.Settles` for everything that ends within the step), and its fate changes
accordingly.
-/

set_option autoImplicit false

namespace SqlBuilder

open Sql (Compiled)

/-! ## The calls on one statement -/

/-- The call of a line, if it is one on the statement with a number. -/
def Line.exchange? (number : Nat) : Line → Option Exchange
  | log _ _ => none
  | call n x => if n = number then some x else none

/-- The calls on the statement with a number, in order. -/
def exchangesIn (number : Nat) (lines : List Line) : List Exchange :=
  lines.filterMap (Line.exchange? number)

/-- No lines have no calls. -/
@[simp] theorem exchangesIn_nil (number : Nat) : exchangesIn number [] = [] := rfl

/-- The calls of lines in a row are those of the first ones and then those of the others. -/
@[simp] theorem exchangesIn_append (number : Nat) (before after : List Line) :
    exchangesIn number (before ++ after) = exchangesIn number before ++ exchangesIn number after :=
  List.filterMap_append

/-- A log record is no call on a statement. -/
@[simp] theorem exchangesIn_log (number : Nat) (level : LogLevel) (message : String)
    (rest : List Line) :
    exchangesIn number (.log level message :: rest) = exchangesIn number rest :=
  rfl

/-- A call is one on the statement that it is made on, and on no other. -/
@[simp] theorem exchangesIn_call (number n : Nat) (x : Exchange) (rest : List Line) :
    exchangesIn number (.call n x :: rest) =
      (if n = number then [x] else []) ++ exchangesIn number rest := by
  by_cases same : n = number
  · simp [exchangesIn, Line.exchange?, same]
  · simp [exchangesIn, Line.exchange?, same]

/-- Calls on one statement are calls on no other. -/
@[simp] theorem exchangesIn_calls (number n : Nat) (xs : List Exchange) :
    exchangesIn number (xs.map (Line.call n)) = if n = number then xs else [] := by
  induction xs with
  | nil => simp
  | cons x rest ih =>
    rw [List.map_cons, exchangesIn_call, ih]
    split <;> rfl

/-- An announcement is no call on a statement. -/
@[simp] theorem exchangesIn_announcement {d : Driver} (number : Nat) (logs : Bool)
    (compiled : Compiled) :
    exchangesIn number ((Session.announcement (d := d.watched) logs compiled).map Entry.line) =
      [] := by
  cases logs <;> rfl

/-- The calls that were made on the statement with a number, in order. -/
def Session.exchangesWith {d : Driver} (s : Session d.watched) (number : Nat) : List Exchange :=
  exchangesIn number s.lines

/-- What is added to the lines adds the calls on a statement that are in it. -/
theorem Session.exchangesWith_of_adds {d : Driver} {added : List Line} {s s' : Session d.watched}
    (h : Adds added s s') (number : Nat) :
    s'.exchangesWith number = s.exchangesWith number ++ exchangesIn number added := by
  rw [exchangesWith, h.lines, exchangesIn_append, exchangesWith]

/-! ## Ways to end -/

namespace Exchange

/-- Whether binding or executing failed, and not in this library's terms. -/
def isForeign (x : Exchange) : Bool :=
  x.refusal?.any fun e => !e.isDriverError

/-- Calls that neither close the statement nor fail in other terms than this library's. -/
def Running (xs : List Exchange) : Prop :=
  ∀ x ∈ xs, x.isClose = false ∧ x.isForeign = false

/-- Calls of which the last one, and no other, closes the statement. -/
def Released (xs : List Exchange) : Prop :=
  ∃ before, Running before ∧ xs = before ++ [close]

/-- Calls of which the last one fails in other terms than this library's, and none closes the
statement. -/
def Abandoned (xs : List Exchange) : Prop :=
  ∃ before x, Running before ∧ x.isForeign = true ∧ xs = before ++ [x]

/-- Running calls one after another are running. -/
theorem Running.append {xs ys : List Exchange} (h : Running xs) (h' : Running ys) :
    Running (xs ++ ys) :=
  List.forall_mem_append.2 ⟨h, h'⟩

/-- Smooth calls are running. -/
theorem Smooth.running {xs : List Exchange} (h : Smooth xs) : Running xs := by
  intro x member
  have smooth := h x member
  refine ⟨not_isClose_of_isSmooth smooth, ?_⟩
  unfold isSmooth at smooth
  split at smooth
  · cases smooth
  · cases smooth
  · cases smooth
  · cases smooth
  · rename_i notClose notBind notExecute notFetch
    unfold isForeign refusal?
    split
    · exact absurd rfl (notBind _ _ _ _)
    · exact absurd rfl (notExecute _)
    · rfl

/-- Running calls may come before those that release. -/
theorem Running.released {xs ys : List Exchange} (h : Running xs) (released : Released ys) :
    Released (xs ++ ys) := by
  obtain ⟨before, running, rfl⟩ := released
  exact ⟨xs ++ before, h.append running, (List.append_assoc _ _ _).symm⟩

/-- Running calls do not close. -/
theorem Running.unclosed {xs : List Exchange} (h : Running xs) : true ∉ xs.map isClose := by
  intro closed
  obtain ⟨x, member, closes⟩ := List.mem_map.1 closed
  rw [(h x member).1] at closes
  cases closes

/-- A statement that was abandoned was not closed. -/
theorem Abandoned.unclosed {xs : List Exchange} (h : Abandoned xs) : true ∉ xs.map isClose := by
  obtain ⟨before, last, running, foreign, rfl⟩ := h
  rw [List.map_append, List.mem_append]
  rintro (early | late)
  · exact running.unclosed early
  · rw [List.map_singleton, List.mem_singleton] at late
    cases last with
    | close => cases foreign
    | _ => cases late

/-- A statement that was released was closed. -/
theorem Released.closed {xs : List Exchange} (h : Released xs) : true ∈ xs.map isClose := by
  obtain ⟨before, running, rfl⟩ := h
  simp [isClose]

/-- A statement that came to its end was released. -/
theorem Ending.released {raises : Error → Prop} {xs : List Exchange} {error : Option Error}
    (h : Ending raises xs error) : Released xs := by
  cases h with
  | closed smooth raised => exact ⟨_, smooth.running, rfl⟩
  | @broken xs smooth e =>
    have failed : Running [fetch (.error e)] := fun x member => by
      rw [List.mem_singleton.1 member]
      exact ⟨rfl, rfl⟩
    exact ⟨xs ++ [fetch (.error e)], smooth.running.append failed, by simp⟩

end Exchange

open Exchange

namespace Session

variable {d : Driver} {s s' s'' : Session d.watched}

/-- A statement whose course is over is released, unless binding or executing failed in other terms
than this library's: then it is abandoned. No other statement is used. -/
theorem Course.settled {raises : Error → Prop} {number : Nat} {compiled : Compiled}
    {lines : List Line} {error : Option Error} (h : Course raises number compiled lines error) :
    (Released (exchangesIn number lines) ∨ Abandoned (exchangesIn number lines)) ∧
      ∀ n, number ≠ n → exchangesIn n lines = [] := by
  have prepare : Running [.prepare compiled.sql] := fun x member => by
    rw [List.mem_singleton.1 member]
    exact ⟨rfl, rfl⟩
  cases h with
  | @ended xs error ending =>
    refine ⟨.inl ?_, fun n other => by simp [other]⟩
    simpa using prepare.released ending.released
  | @logged xs smooth x e refuses own =>
    refine ⟨.inl ?_, fun n other => by simp [other]⟩
    have refused : Running [x] := fun y member => by
      rw [List.mem_singleton.1 member]
      refine ⟨not_isClose_of_refusal? refuses, ?_⟩
      rw [isForeign, refuses, Option.any_some, own]
      rfl
    exact ⟨_, prepare.append (smooth.running.append refused), by simp⟩
  | @abandoned xs smooth x e refuses foreign =>
    refine ⟨.inr ?_, fun n other => by simp [other]⟩
    refine ⟨_, x, prepare.append smooth.running, ?_, by simp⟩
    rw [isForeign, refuses, Option.any_some, foreign]
    rfl

/-- Between two moments statements are prepared, all of which are settled, and no other statement is
used. -/
structure Settles (s s' : Session d.watched) : Prop where
  /-- How many statements were prepared. -/
  grows : s.prepares ≤ s'.prepares
  /-- What is added on each of them. -/
  lines : ∃ added, s'.lines = s.lines ++ added ∧ ∀ n,
    if s.prepares ≤ n ∧ n < s'.prepares then
      Released (exchangesIn n added) ∨ Abandoned (exchangesIn n added)
    else exchangesIn n added = []

/-- Nothing happens between a moment and itself. -/
theorem Settles.refl (s : Session d.watched) : Settles s s := by
  refine ⟨Nat.le_refl _, [], (List.append_nil _).symm, ?_⟩
  intro n
  rw [if_neg (by omega)]
  rfl

/-- What is settled between two moments, and then between the second and a third, is settled between
the first and the third. -/
theorem Settles.trans (h : Settles s s') (h' : Settles s' s'') : Settles s s'' := by
  obtain ⟨grows, added, first, early⟩ := h
  obtain ⟨grows', more, second, late⟩ := h'
  refine ⟨grows.trans grows', added ++ more, ?_, ?_⟩
  · rw [second, first, List.append_assoc]
  · intro n
    have early := early n
    have late := late n
    rw [exchangesIn_append]
    -- A number falls into the first stretch, into the second, or into neither.
    by_cases before : n < s'.prepares
    · rw [if_neg (by omega)] at late
      rw [late, List.append_nil]
      by_cases here : s.prepares ≤ n
      · rw [if_pos (by omega)] at early ⊢
        exact early
      · rw [if_neg (by omega)] at early ⊢
        exact early
    · rw [if_neg (by omega)] at early
      rw [early, List.nil_append]
      by_cases here : n < s''.prepares
      · rw [if_pos (by omega)] at late ⊢
        exact late
      · rw [if_neg (by omega)] at late ⊢
        exact late

/-- A use of one statement settles it. -/
theorem Uses.settles {raises : Error → Prop} {logs : Bool} {compiled : Compiled}
    {error : Option Error} (h : Uses raises logs compiled s s' error) : Settles s s' := by
  obtain ⟨prepares, lines, added, course⟩ := h
  obtain ⟨own, others⟩ := course.settled
  refine ⟨by omega, _, (List.append_assoc _ _ _ ▸ added), ?_⟩
  intro n
  rw [exchangesIn_append, exchangesIn_announcement, List.nil_append]
  by_cases here : s.prepares = n
  · rw [if_pos (by omega), ← here]
    exact own
  · rw [if_neg (by omega)]
    exact others n here

/-- A statement that runs was neither closed nor left. -/
theorem Opens.exchanges {logs : Bool} {compiled : Compiled} (h : Opens logs compiled s s') :
    ∃ ys, Running ys ∧ ∀ n,
      s'.exchangesWith n = s.exchangesWith n ++ if s.prepares = n then ys else [] := by
  obtain ⟨-, xs, smooth, added⟩ := h
  refine ⟨.prepare compiled.sql :: xs, (smooth.cons rfl).running, ?_⟩
  intro n
  rw [exchangesWith, added, exchangesIn_append, exchangesIn_append, exchangesIn_announcement,
    List.append_nil, exchangesIn_call, exchangesIn_calls, exchangesWith]
  split <;> rfl

/-- Whatever calls do with a session, the statements that they prepare are settled. -/
theorem chained_settles : Session.Chained (Settles (d := d)) where
  refl := Settles.refl
  trans := Settles.trans
  fetchAll s logs compiled := (uses_fetchAll s logs compiled fun _ => False).settles
  insert s logs compiled := (uses_insert s logs compiled fun _ => False).settles
  affect s logs compiled := (uses_affect s logs compiled fun _ => False).settles

end Session

/-! ## The fate of a statement -/

variable {d : Driver}

/-- The number of the statement that an iterator reads. -/
def RowIterator.number? : RowIterator d.watched → Option Nat
  | reading p _ _ => some p.2
  | pending _ _ _ | finished => none

/-- Whether an iterator reads the statement with a number. -/
def RowIterator.reads (number : Nat) (it : RowIterator d.watched) : Bool :=
  it.number? == some number

namespace Workspace

/-- How many iterators read the statement with a number. -/
def readers (w : Workspace d.watched) (number : Nat) : Nat :=
  w.iterators.countP (RowIterator.reads number)

/-- The number of a prepared statement. -/
def numberOf (p : d.watched.Prepared) : Nat :=
  p.2

/-- The statement with a number was prepared by hand. -/
def Lends (w : Workspace d.watched) (number : Nat) : Prop :=
  number ∈ w.handles.map numberOf

/-- What became of the statement with a number. -/
inductive Fate (w : Workspace d.watched) (s : Session d.watched) (number : Nat) : Prop
  /-- It was not prepared yet. -/
  | unborn (later : s.prepares ≤ number) (unused : s.exchangesWith number = [])
    (unread : w.readers number = 0) (unlent : ¬w.Lends number)
  /-- It was prepared by hand. -/
  | lent (born : number < s.prepares) (lent : w.Lends number) (unread : w.readers number = 0)
  /-- One iterator reads it. -/
  | running (born : number < s.prepares) (runs : Running (s.exchangesWith number))
    (read : w.readers number = 1) (unlent : ¬w.Lends number)
  /-- It was closed at its end, or left after a failure. -/
  | settled (born : number < s.prepares)
    (done : Released (s.exchangesWith number) ∨ Abandoned (s.exchangesWith number))
    (unread : w.readers number = 0) (unlent : ¬w.Lends number)

variable {w w' : Workspace d.watched} {s s' : Session d.watched} {number : Nat}

/-- A statement that is not touched keeps its fate. -/
theorem Fate.untouched (h : w.Fate s number) (readers : w'.readers number = w.readers number)
    (lends : w'.Lends number ↔ w.Lends number)
    (exchanges : s'.exchangesWith number = s.exchangesWith number)
    (grows : s.prepares ≤ s'.prepares) (old : number < s.prepares ∨ s'.prepares ≤ number) :
    w'.Fate s' number := by
  cases h with
  | unborn later unused unread unlent =>
    exact .unborn (by omega) (exchanges.trans unused) (readers.trans unread) (mt lends.1 unlent)
  | lent born lent unread => exact .lent (by omega) (lends.2 lent) (readers.trans unread)
  | running born runs read unlent =>
    exact .running (by omega) (exchanges ▸ runs) (readers.trans read) (mt lends.1 unlent)
  | settled born done unread unlent =>
    exact .settled (by omega) (exchanges ▸ done) (readers.trans unread) (mt lends.1 unlent)

/-- The next statement was not used, and nobody has it. -/
theorem Fate.of_next (h : w.Fate s number) (next : s.prepares ≤ number) :
    s.exchangesWith number = [] ∧ w.readers number = 0 ∧ ¬w.Lends number := by
  cases h with
  | unborn later unused unread unlent => exact ⟨unused, unread, unlent⟩
  | lent born | running born | settled born => omega

/-- A statement that an iterator reads runs, and nobody else has it. -/
theorem Fate.of_read (h : w.Fate s number) (read : 0 < w.readers number) :
    number < s.prepares ∧ Running (s.exchangesWith number) ∧ w.readers number = 1 ∧
      ¬w.Lends number := by
  cases h with
  | running born runs once unlent => exact ⟨born, runs, once, unlent⟩
  | unborn later unused unread => omega
  | lent born lent unread => omega
  | settled born done unread => omega

/-- A statement that was prepared by hand is read by no iterator. -/
theorem Fate.of_lent (h : w.Fate s number) (lent : w.Lends number) :
    number < s.prepares ∧ w.readers number = 0 := by
  cases h with
  | lent born lent unread => exact ⟨born, unread⟩
  | unborn later unused unread unlent => exact absurd lent unlent
  | running born runs read unlent => exact absurd lent unlent
  | settled born done unread unlent => exact absurd lent unlent

/-- A statement keeps its fate when others are prepared and settled, as long as those that read it
and lend it stay. -/
theorem Fate.settles (h : w.Fate s number) (settles : s.Settles s')
    (readers : w'.readers number = w.readers number) (lends : w'.Lends number ↔ w.Lends number) :
    w'.Fate s' number := by
  obtain ⟨grows, added, lines, each⟩ := settles
  have each := each number
  have exchanges :
      s'.exchangesWith number = s.exchangesWith number ++ exchangesIn number added := by
    rw [Session.exchangesWith, lines, exchangesIn_append, Session.exchangesWith]
  by_cases fresh : s.prepares ≤ number ∧ number < s'.prepares
  · obtain ⟨unused, unread, unlent⟩ := h.of_next fresh.1
    rw [if_pos fresh] at each
    rw [unused, List.nil_append] at exchanges
    exact .settled fresh.2 (exchanges ▸ each) (readers.trans unread) (mt lends.1 unlent)
  · rw [if_neg fresh] at each
    rw [each, List.append_nil] at exchanges
    exact h.untouched readers lends exchanges grows (by omega)

/-! ## Steps on iterators -/

/-- What acting on an iterator does to the statements. -/
inductive Acts (it : RowIterator d.watched) (s : Session d.watched) (it' : RowIterator d.watched)
    (s' : Session d.watched) : Prop
  /-- It reads what it read before; statements that are prepared are settled. -/
  | passes (same : it'.number? = it.number?) (settles : s.Settles s')
  /-- It prepares a statement and reads it. -/
  | opens (before : it.number? = none) (after : it'.number? = some s.prepares) {logs : Bool}
    {compiled : Compiled} (opens : Session.Opens logs compiled s s')
  /-- It goes on reading. -/
  | reads {n : Nat} (before : it.number? = some n) (after : it'.number? = some n)
    {xs : List Exchange} (runs : Running xs) (adds : Session.Adds (xs.map (.call n)) s s')
  /-- It closes what it read. -/
  | closes {n : Nat} (before : it.number? = some n) (after : it'.number? = none)
    {xs : List Exchange} (released : Released xs) (adds : Session.Adds (xs.map (.call n)) s s')

/-- Replacing an iterator replaces what it reads in the count of readers. -/
theorem readers_withIteratorAt {index : Nat} {it : RowIterator d.watched}
    (place : w.iterators[index]? = some it) (it' : RowIterator d.watched) (s' : Session d.watched)
    (number : Nat) :
    (w.withIteratorAt index it' s').readers number + (if it.reads number then 1 else 0) =
      w.readers number + (if it'.reads number then 1 else 0) := by
  obtain ⟨within, rfl⟩ := List.getElem?_eq_some_iff.1 place
  have least : (if (w.iterators[index]).reads number then 1 else 0) ≤ w.readers number :=
    List.boole_getElem_le_countP within
  have changed : (w.withIteratorAt index it' s').readers number = _ := List.countP_set within
  rw [changed]
  unfold readers at least ⊢
  omega

/-- A statement that an iterator reads has a reader. -/
theorem readers_pos {index : Nat} {it : RowIterator d.watched}
    (place : w.iterators[index]? = some it) (held : it.number? = some number) :
    0 < w.readers number := by
  refine List.countP_pos_iff.2 ⟨it, List.mem_of_getElem? place, ?_⟩
  rw [RowIterator.reads, held, beq_self_eq_true]

/-- Every statement has a fate after an iterator acted. -/
theorem Fate.acts (fate : ∀ n, w.Fate s n) {index : Nat} {it it' : RowIterator d.watched}
    (place : w.iterators[index]? = some it) (acts : Acts it s it' s') (number : Nat) :
    (w.withIteratorAt index it' s').Fate s' number := by
  have h := fate number
  have readers := readers_withIteratorAt place it' s' number
  have lends : (w.withIteratorAt index it' s').Lends number ↔ w.Lends number := Iff.rfl
  unfold RowIterator.reads at readers
  cases acts with
  | passes same settles =>
    rw [same] at readers
    exact h.settles settles (by omega) lends
  | opens before after opens =>
    obtain ⟨prepares, -⟩ := id opens
    obtain ⟨ys, runs, exchanges⟩ := opens.exchanges
    have exchanges := exchanges number
    rw [before, after] at readers
    -- The new statement has the next number, which nobody used before.
    by_cases own : s.prepares = number
    · obtain ⟨unused, unread, unlent⟩ := h.of_next (by omega)
      rw [unused, if_pos own, List.nil_append] at exchanges
      refine .running (by omega) (exchanges ▸ runs) ?_ unlent
      simpa [own, unread] using readers
    · rw [if_neg own, List.append_nil] at exchanges
      refine h.untouched ?_ lends exchanges (by omega) (by omega)
      simpa [own] using readers
  | @reads n before after xs runs adds =>
    have exchanges := Session.exchangesWith_of_adds adds number
    rw [exchangesIn_calls] at exchanges
    rw [before, after] at readers
    have prepares := adds.prepares
    have same : (w.withIteratorAt index it' s').readers number = w.readers number := by omega
    -- Only the statement that the iterator reads has new calls.
    by_cases own : n = number
    · subst own
      obtain ⟨born, running, once, unlent⟩ := h.of_read (readers_pos place before)
      rw [if_pos rfl] at exchanges
      exact .running (by omega) (exchanges ▸ running.append runs) (same.trans once) unlent
    · rw [if_neg own, List.append_nil] at exchanges
      exact h.untouched same lends exchanges (by omega) (by omega)
  | @closes n before after xs released adds =>
    have exchanges := Session.exchangesWith_of_adds adds number
    rw [exchangesIn_calls] at exchanges
    rw [before, after] at readers
    have prepares := adds.prepares
    by_cases own : n = number
    · subst own
      obtain ⟨born, running, once, unlent⟩ := h.of_read (readers_pos place before)
      rw [if_pos rfl] at exchanges
      refine .settled (by omega) (.inl (exchanges ▸ running.released released)) ?_ unlent
      rw [once] at readers
      simpa using readers
    · rw [if_neg own, List.append_nil] at exchanges
      refine h.untouched ?_ lends exchanges (by omega) (by omega)
      simpa [own] using readers

/-- Pulling an iterator acts on the statements. -/
theorem acts_next (it : RowIterator d.watched) (logs : Bool) (s : Session d.watched) :
    Acts it s (it.next logs s).2.1 (it.next logs s).2.2 := by
  cases it with
  | finished => exact .passes rfl (.refl s)
  | pending compiled transform spread =>
    rcases RowIterator.next_pending compiled transform spread logs s with
      ⟨v, p, s', pulled, opens⟩ | ⟨e, s', pulled, uses⟩
    · rw [pulled]
      exact .opens rfl rfl opens
    · rw [pulled]
      exact .passes rfl uses.settles
  | reading p transform spread =>
    obtain ⟨xs, adds, turn⟩ := RowIterator.advance_turn s p transform spread
    rw [RowIterator.next]
    generalize RowIterator.advance s p transform spread = result at adds turn ⊢
    obtain ⟨outcome, it', s'⟩ := result
    dsimp only at adds turn ⊢
    cases turn with
    | running smooth v q => exact .reads rfl rfl smooth.running adds
    | closed ending => exact .closes rfl rfl ending.released adds

/-- Pulling an iterator to its end acts on the statements, and leaves it finished. -/
theorem acts_rest (it : RowIterator d.watched) (logs : Bool) (s : Session d.watched) :
    Acts it s .finished (it.rest logs s).2 := by
  cases it with
  | finished => exact .passes rfl (.refl s)
  | pending compiled transform spread =>
    exact .passes rfl (RowIterator.rest_pending compiled transform spread logs s).settles
  | reading p transform spread =>
    obtain ⟨xs, adds, ending⟩ := RowIterator.rest_reading s p transform spread logs
    exact .closes rfl rfl ending.released adds

/-- Closing an iterator acts on the statements, and leaves it finished. -/
theorem acts_close (it : RowIterator d.watched) (s : Session d.watched) :
    Acts it s .finished (it.close s) := by
  cases it with
  | finished | pending compiled transform spread => exact .passes rfl (.refl s)
  | reading p transform spread =>
    have released : Released [.close] := ⟨[], fun x member => absurd member List.not_mem_nil, rfl⟩
    exact .closes rfl rfl released (Session.adds_close s p)

/-- Whatever is done with an iterator acts on the statements. -/
theorem acts_of_used {it it' : RowIterator d.watched} {logs : Bool}
    (used : it.Used logs s it' s') : Acts it s it' s' := by
  cases used with
  | next => exact acts_next it logs s
  | rest => exact acts_rest it logs s
  | stop => exact acts_close it s

/-! ## Steps by hand -/

/-- A call by hand adds calls on its own statement only. -/
theorem adds_of_byHand {p p' : d.watched.Prepared} (byHand : s.ByHand p p' s') :
    numberOf p' = numberOf p ∧
      ∃ xs : List Exchange, Session.Adds (xs.map (.call (numberOf p))) s s' := by
  cases byHand with
  | bind position value tag => exact ⟨rfl, [_], Session.adds_bind s p position value tag⟩
  | execute => exact ⟨rfl, [_], Session.adds_execute s p⟩
  | fetch => exact ⟨rfl, [_], Session.adds_fetch s p⟩
  | close => exact ⟨rfl, [_], Session.adds_close s p⟩
  | read => exact ⟨rfl, [], .refl s⟩

/-- A call by hand leaves every statement with a fate. -/
theorem Fate.handled (fate : ∀ n, w.Fate s n) {index : Nat} {p p' : d.watched.Prepared}
    (place : w.handles[index]? = some p) (byHand : s.ByHand p p' s') (number : Nat) :
    (w.withHandleAt index p' s').Fate s' number := by
  have h := fate number
  obtain ⟨same, xs, adds⟩ := adds_of_byHand byHand
  have lends : (w.withHandleAt index p' s').Lends number ↔ w.Lends number := by
    obtain ⟨within, rfl⟩ := List.getElem?_eq_some_iff.1 place
    have numbers : (w.handles.set index p').map numberOf = w.handles.map numberOf := by
      rw [List.map_set, same, ← List.getElem_map numberOf, List.set_getElem_self]
      rwa [List.length_map]
    show number ∈ (w.handles.set index p').map numberOf ↔ _
    rw [numbers, Lends]
  have readers : (w.withHandleAt index p' s').readers number = w.readers number := rfl
  have exchanges := Session.exchangesWith_of_adds adds number
  have prepares := adds.prepares
  rw [exchangesIn_calls] at exchanges
  by_cases own : numberOf p = number
  · have lent : w.Lends number := own ▸ List.mem_map_of_mem (List.mem_of_getElem? place)
    obtain ⟨born, unread⟩ := h.of_lent lent
    exact .lent (by omega) (lends.2 lent) (readers.trans unread)
  · rw [if_neg own, List.append_nil] at exchanges
    exact h.untouched readers lends exchanges (by omega) (by omega)

/-- Preparing a statement by hand leaves every statement with a fate. -/
theorem Fate.prepared (fate : ∀ n, w.Fate s n) (sql : String) (number : Nat) :
    (w.withPrepared s sql).Fate (s.prepare sql).2 number := by
  have h := fate number
  obtain ⟨own, prepares, added⟩ := Session.adds_prepare s sql
  have exchanges : (s.prepare sql).2.exchangesWith number =
      s.exchangesWith number ++ if s.prepares = number then [.prepare sql] else [] := by
    rw [Session.exchangesWith, added, exchangesIn_append, exchangesIn_call, exchangesIn_nil,
      List.append_nil, Session.exchangesWith]
  have lends : (w.withPrepared s sql).Lends number ↔ w.Lends number ∨ number = s.prepares := by
    have own : numberOf (s.prepare sql).1 = s.prepares := own
    show number ∈ (w.handles ++ [(s.prepare sql).1]).map numberOf ↔ _
    rw [List.map_append, List.mem_append, List.map_singleton, List.mem_singleton, own, Lends]
  by_cases fresh : s.prepares = number
  · obtain ⟨unused, unread, unlent⟩ := h.of_next (by omega)
    exact .lent (by omega) (lends.2 (.inr fresh.symm)) unread
  · rw [if_neg fresh, List.append_nil] at exchanges
    refine h.untouched rfl ?_ exchanges (by omega) (by omega)
    rw [lends]
    exact ⟨fun either => either.resolve_right (Ne.symm fresh), .inl⟩

/-! ## Steps -/

/-- There is a session, and every statement has a fate. -/
def Accounted (w : Workspace d.watched) : Prop :=
  ∃ s, w.statement.session = some s ∧ ∀ number, w.Fate s number

/-- Every effect leaves every statement with a fate. -/
theorem Accounted.effect {w w' : Workspace d.watched} (effect : w.Effect w') (h : w.Accounted) :
    w'.Accounted := by
  obtain ⟨s, found, fate⟩ := h
  have same {s' : Session d.watched} (present : w.statement.session = some s') : s' = s :=
    Option.some.inj (present.symm.trans found)
  cases effect with
  | none => exact ⟨s, found, fate⟩
  | renewed | unsent entries =>
    exact ⟨s, found, fun number => (fate number).settles (.refl s) rfl Iff.rfl⟩
  | called call =>
    obtain ⟨s', after, settles⟩ := call.leads_run Session.chained_settles w.statement s found
    exact ⟨s', after, fun number => (fate number).settles settles rfl Iff.rfl⟩
  | morphed compiles transform spread =>
    -- The new iterator reads no statement yet.
    refine ⟨s, found, fun number => (fate number).settles (.refl s) ?_ Iff.rfl⟩
    exact List.countP_append
  | iterated place present used =>
    obtain rfl := same present
    exact ⟨_, rfl, Fate.acts fate place (acts_of_used used)⟩
  | prepared present sql =>
    obtain rfl := same present
    exact ⟨_, rfl, Fate.prepared fate sql⟩
  | handled place present byHand =>
    obtain rfl := same present
    exact ⟨_, rfl, Fate.handled fate place byHand⟩
  | ran present exchanged =>
    obtain rfl := same present
    have settles := exchanged.leads Session.chained_settles
    exact ⟨_, rfl, fun number => (fate number).settles settles rfl Iff.rfl⟩

/-- A workspace that was just opened has no statements to account for. -/
theorem accounted_opened (options : Options) (connection : d.Connection) :
    (opened (d := d.watched) options (connection, 0)).Accounted :=
  ⟨_, rfl, fun _ => .unborn (Nat.zero_le _) rfl rfl List.not_mem_nil⟩

end Workspace

/-- What becomes of prepared statements, whatever a driver does and whatever it fails with.

A run that fails in this library's terms, or for repeated column names, closes its statement by its
last call; one that fails in other terms does not. After any steps of a workspace, every statement
that was prepared is released, with one close as its last call, unless binding or executing failed
in other terms, or one iterator still reads it, or it was prepared by hand. One that binding or
executing failed on in other terms was never closed, and nobody has it any more. -/
theorem released_or_abandoned (d : Driver) :
    (∀ (s : Session d.watched) (logs : Bool) (compiled : Compiled),
      (s.run logs compiled).2.prepares = s.prepares + 1 ∧
      (∃ lines, (s.run logs compiled).2.lines =
          s.lines ++ (Session.announcement (d := d.watched) logs compiled).map Entry.line ++ lines ∧
        Session.Attempted d s.prepares compiled s.connection.1 lines (s.run logs compiled).1) ∧
      (d.watchedCover.session s).run logs compiled =
        ((s.run logs compiled).1.map d.watchedCover.prepared,
          d.watchedCover.session (s.run logs compiled).2)) ∧
    ∀ (options : Options) (connection : d.Connection) (todo : List Step),
      let w := ((Workspace.opened (d := d.watched) options (connection, 0)).steps todo).2
      ∃ s, w.statement.session = some s ∧ ∀ number < s.prepares,
        (Released (s.exchangesWith number) ∨ Abandoned (s.exchangesWith number)) ∧
            w.readers number = 0 ∧ ¬w.Lends number ∨
          Running (s.exchangesWith number) ∧ w.readers number = 1 ∧ ¬w.Lends number ∨
          w.readers number = 0 ∧ w.Lends number := by
  constructor
  · intro s logs compiled
    obtain ⟨prepares, shape⟩ := Session.run_attempted s logs compiled
    exact ⟨prepares, shape, d.watchedCover.session_run s logs compiled⟩
  · intro options connection todo w
    obtain ⟨s, found, fate⟩ := Workspace.steps_keep Workspace.Accounted.effect todo
      (Workspace.accounted_opened options connection)
    refine ⟨s, found, ?_⟩
    intro number born
    cases fate number with
    | unborn later => omega
    | settled born done unread unlent => exact .inl ⟨done, unread, unlent⟩
    | running born runs read unlent => exact .inr (.inl ⟨runs, read, unlent⟩)
    | lent born lent unread => exact .inr (.inr ⟨unread, lent⟩)

/-- A connection that fails in the terms of the layer below, then counts, then gives a row. -/
def overflowing : Connection where
  script :=
    [{ failure := some ⟨.overflow, "too big" ⟩ }, { rowCount := 1 },
      { columns := some ["a"], rows := [[.int 1]] }]

/-- Steps that read, delete, and pull the first row of an iterator. -/
def overflowingSteps : List Step :=
  [.call (.readFrom (.value (.text "t")) (.value .null)), .call .get, .call .delete,
    .morph Transform.whole false, .next 0]

/-- The first of three statements is abandoned, the second is released and the third is running. -/
theorem released_or_abandoned_overflowing :
    let w := ((Workspace.opened (d := Recording.driver.watched) {} (overflowing, 0)).steps
      overflowingSteps).2
    ∃ s, w.statement.session = some s ∧ s.prepares = 3 ∧ Abandoned (s.exchangesWith 0) ∧
      Released (s.exchangesWith 1) ∧ Running (s.exchangesWith 2) := by
  intro w
  obtain ⟨s, found, fates⟩ := (released_or_abandoned Recording.driver).2 {} overflowing
    overflowingSteps
  have found : w.statement.session = some s := found
  have prepares : w.statement.session.map Session.prepares = some 3 := by decide +kernel
  have closes : w.statement.session.map (fun s => (List.range 2).map fun number =>
      (s.exchangesWith number).map Exchange.isClose) =
        some [[false, false], [false, false, true]] := by decide +kernel
  have readers : (List.range 3).map w.readers = [0, 0, 1] := by decide +kernel
  have handles : w.handles.map Workspace.numberOf = [] := by decide +kernel
  have unlent (number : Nat) : ¬w.Lends number := by
    rw [Workspace.Lends, handles]
    exact List.not_mem_nil
  rw [found] at prepares closes
  have prepares : s.prepares = 3 := Option.some.inj prepares
  obtain ⟨zero, one⟩ : (s.exchangesWith 0).map Exchange.isClose = [false, false] ∧
      (s.exchangesWith 1).map Exchange.isClose = [false, false, true] := by
    simpa [List.range_succ] using closes
  obtain ⟨none, -, once⟩ : w.readers 0 = 0 ∧ w.readers 1 = 0 ∧ w.readers 2 = 1 := by
    simpa [List.range_succ] using readers
  refine ⟨s, found, prepares, ?_, ?_, ?_⟩
  · rcases fates 0 (by omega) with ⟨released | abandoned, -⟩ | ⟨-, read, -⟩ | ⟨-, lent⟩
    · exact absurd released.closed (by rw [zero]; decide)
    · exact abandoned
    · exact absurd (none.symm.trans read) (by decide)
    · exact absurd lent (unlent 0)
  · rcases fates 1 (by omega) with ⟨released | abandoned, -⟩ | ⟨running, -⟩ | ⟨-, lent⟩
    · exact released
    · exact absurd abandoned.unclosed (by rw [one]; decide)
    · exact absurd running.unclosed (by rw [one]; decide)
    · exact absurd lent (unlent 1)
  · rcases fates 2 (by omega) with ⟨-, unread, -⟩ | ⟨running, -⟩ | ⟨-, lent⟩
    · exact absurd (unread.symm.trans once) (by decide)
    · exact running
    · exact absurd lent (unlent 2)

/-- A number that does not fit leaves the statement open: of the two calls on the only statement
that was prepared, none closes it. -/
theorem overflow_leaves_statement_open :
    let table : Source := { sql := .text "t", table := .text "t", aliasName := .text "t" }
    let overflow : Failure := ⟨.overflow, "too big"⟩
    let connection : Connection := { script := [{ failure := some overflow }] }
    let st : Statement Recording.driver.watched :=
      { state := { source := some table }, session := some { connection := (connection, 0) } }
    st.get.1 = .error (.native overflow) ∧
      st.get.2.session.map (fun s => (s.prepares, (s.exchangesWith 0).map Exchange.isClose)) =
        some (1, [false, false]) :=
  ⟨rfl, rfl⟩

end SqlBuilder
