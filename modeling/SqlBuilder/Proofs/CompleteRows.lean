import SqlBuilder.Proofs.Deliveries
import SqlBuilder.Proofs.RegularReplies
import SqlBuilder.Proofs.Watching
import SqlBuilder.Workspace

/-!
# Rows complete and in order

A reply without a failure of the execution hands over rows: all of them, or those before the fetch
that fails. Both adapters deliver exactly these, in order, each with the names of the columns in
their order, one by zipping, the other by looking names up. When a name is repeated, the statement
is refused and closed before any fetch. What all rows, the first row, and an iterator give follows
from what is delivered.
-/

set_option autoImplicit false

namespace SqlBuilder

open Sql (Compiled)

/-! ## Repeated names -/

/-- Items without their repetitions are different. -/
theorem nodup_eraseDups {α : Type} [DecidableEq α] (items : List α) : items.eraseDups.Nodup := by
  cases items with
  | nil => exact List.nodup_nil
  | cons a rest =>
    rw [List.eraseDups_cons, List.nodup_cons, List.mem_eraseDups]
    exact ⟨by simp, nodup_eraseDups (rest.filter fun b => !b == a)⟩
termination_by items.length
decreasing_by exact Nat.lt_succ_of_le (List.length_filter_le _ _)

/-- The repeated names are those that occur more than once. -/
theorem mem_repeatedNames {names : List String} {name : String} :
    name ∈ repeatedNames names ↔ 1 < names.count name := by
  simp only [repeatedNames, List.mem_mergeSort, List.mem_eraseDups, List.mem_filter,
    decide_eq_true_eq, and_iff_right_iff_imp]
  intro more
  exact List.count_pos_iff.1 (Nat.lt_of_succ_lt more)

/-- Each repeated name is given once, in increasing order. -/
theorem sorted_repeatedNames (names : List String) :
    (repeatedNames names).Pairwise (· < ·) := by
  let repeated := (names.filter fun name => 1 < names.count name).eraseDups
  have trans (a b c : String) (first : decide (a ≤ b) = true) (second : decide (b ≤ c) = true) :
      decide (a ≤ c) = true :=
    decide_eq_true (String.le_trans (of_decide_eq_true first) (of_decide_eq_true second))
  have total (a b : String) : (decide (a ≤ b) || decide (b ≤ a)) = true := by
    simp [String.le_total a b]
  have sorted : (repeatedNames names).Pairwise fun a b => decide (a ≤ b) = true :=
    List.pairwise_mergeSort trans total repeated
  have different : (repeatedNames names).Pairwise (· ≠ ·) :=
    (List.mergeSort_perm repeated _).nodup_iff.2 (nodup_eraseDups _)
  exact (sorted.and different).imp fun h => Std.lt_of_le_of_ne (of_decide_eq_true h.1) h.2

/-- No name is repeated exactly when all are different. -/
theorem repeatedNames_eq_nil_iff {names : List String} :
    repeatedNames names = [] ↔ names.Nodup := by
  refine ⟨nodup_of_repeatedNames, fun distinct => ?_⟩
  apply List.eq_nil_iff_forall_not_mem.2
  intro name repeated
  have once := List.nodup_iff_count.1 distinct name
  exact absurd (mem_repeatedNames.1 repeated) (Nat.not_lt.2 once)

/-- A statement with repeated column names is refused and closed. -/
theorem Session.settled_of_repeated {d : Driver} (s : Session d) {p : d.Prepared}
    (repeated : repeatedNames (d.columns p) ≠ []) :
    s.settled p = (.error (.duplicateColumns (repeatedNames (d.columns p))), (s.close p).2) := by
  unfold Session.settled
  split
  · rename_i none
    exact absurd none repeated
  · rfl

/-! ## What a reply hands over -/

/-- What the fetches of a cursor come to: rows, one after another, and the failure that they end
with, if they do not end for lack of rows. -/
inductive Cursor.Hands : Cursor → List (List Value) → Option Failure → Prop
  /-- There is no further row. -/
  | ended {cursor cursor' : Cursor} (h : cursor.fetch = (.ok none, cursor')) : Hands cursor [] none
  /-- Fetching fails. -/
  | broken {cursor cursor' : Cursor} {failure : Failure}
    (h : cursor.fetch = (.error failure, cursor')) : Hands cursor [] (some failure)
  /-- A row is fetched. -/
  | row {cursor cursor' : Cursor} {values : List Value} {rows : List (List Value)}
    {stop : Option Failure} (h : cursor.fetch = (.ok (some values), cursor'))
    (later : Hands cursor' rows stop) : Hands cursor (values :: rows) stop

namespace Reply

variable {reply : Reply} {stop : Option Failure} {n : Nat} {failure : Failure}

/-- Up to a fetch that ends, the fetches hand over the rows in order. -/
theorem hands_upTo (within : n ≤ reply.rows.length)
    (smooth : ∀ i < n, ({ reply := reply, fetched := i } : Cursor).failure? = none)
    (ends : Cursor.Hands { reply := reply, fetched := n } [] stop) {k : Nat} (le : k ≤ n) :
    Cursor.Hands { reply := reply, fetched := k } ((reply.rows.take n).drop k) stop := by
  induction left : n - k generalizing k with
  | zero =>
    obtain rfl : k = n := by omega
    rw [List.drop_eq_nil_of_le (by rw [List.length_take]; omega)]
    exact ends
  | succ left' ih =>
    have here : k < (reply.rows.take n).length := by
      rw [List.length_take]
      omega
    have found : reply.rows[k]? = some (reply.rows.take n)[k] := by
      rw [List.getElem_take]
      exact List.getElem?_eq_getElem _
    rw [List.drop_eq_getElem_cons here]
    have fetched : ({ reply := reply, fetched := k } : Cursor).fetch =
        (.ok (some (reply.rows.take n)[k]), { reply := reply, fetched := k + 1 }) := by
      simp only [Cursor.fetch, smooth k (by omega), found]
    exact .row fetched (ih (by omega) (by omega))

/-- A reply whose fetches never come to fail hands over all of its rows. -/
theorem hands_all
    (whole : ∀ n failure, reply.fetchFailure = some (n, failure) → reply.rows.length < n) :
    Cursor.Hands { reply := reply } reply.rows none := by
  have smooth : ∀ i ≤ reply.rows.length,
      ({ reply := reply, fetched := i } : Cursor).failure? = none := by
    intro i within
    unfold Cursor.failure?
    dsimp only
    split
    · rename_i n failure breaks
      rw [if_neg (Nat.ne_of_gt (Nat.lt_of_le_of_lt within (whole n failure breaks)))]
    · rfl
  let last : Cursor := { reply := reply, fetched := reply.rows.length }
  have fetched : last.fetch = (.ok none, last) := by
    simp [last, Cursor.fetch, smooth _ (Nat.le_refl _)]
  have hands := hands_upTo (Nat.le_refl _) (fun i lt => smooth i (Nat.le_of_lt lt))
    (.ended fetched) (Nat.zero_le _)
  rwa [List.take_length] at hands

/-- A reply whose fetches come to fail hands over the rows before. -/
theorem hands_broken (breaks : reply.fetchFailure = some (n, failure))
    (reached : n ≤ reply.rows.length) :
    Cursor.Hands { reply := reply } (reply.rows.take n) (some failure) := by
  have smooth : ∀ i < n, ({ reply := reply, fetched := i } : Cursor).failure? = none := by
    intro i before
    simp only [Cursor.failure?, breaks, if_neg (Nat.ne_of_gt before)]
  let last : Cursor := { reply := reply, fetched := n }
  have fetched : last.fetch = (.error failure, last) := by
    simp [last, Cursor.fetch, Cursor.failure?, breaks]
  exact hands_upTo reached smooth (.broken fetched) (Nat.zero_le n)

end Reply

/-! ## What the adapters deliver -/

/-- A row with the names of its columns. -/
def Row.keyed (columns : List String) (values : List Value) : Row :=
  ⟨columns.zip values⟩

/-- The names go with the values as they are if no name is repeated. -/
theorem Row.zip_eq_keyed {columns : List String} (distinct : columns.Nodup) {values : List Value}
    (count : values.length = columns.length) :
    Row.zip columns values = Row.keyed columns values := by
  apply Row.ofPairs_of_nodup
  rwa [List.map_fst_zip (Nat.le_of_eq count.symm)]

/-- The values of a row are given back in the order of the columns. -/
theorem Row.values_keyed {columns : List String} {values : List Value}
    (count : values.length = columns.length) : (Row.keyed columns values).values = values :=
  List.map_snd_zip (Nat.le_of_eq count)

/-- A positional statement delivers what its cursor hands over, with the column names. -/
theorem Positional.delivers {cursor : Cursor} {rows : List (List Value)} {stop : Option Failure}
    (hands : cursor.Hands rows stop) {p : Positional.driver.Prepared}
    (reads : Positional.Prepared.cursor p = some cursor) (s : Session Positional.driver) :
    s.Delivers p (rows.map (Row.zip (Positional.Prepared.columns p)))
      (stop.map (Positional.Prepared.errorOf p)) := by
  induction hands generalizing p s with
  | @ended cursor cursor' h =>
    have fetched : s.fetch p = (.ok none,
        { p with cursor := some cursor' }, s.reach s.connection []) := by
      simp only [Session.fetch, Positional.driver, Positional.Prepared.fetch, reads, h]
      rfl
    exact .ended fetched
  | @broken cursor cursor' failure h =>
    have fetched : s.fetch p = (.error (Positional.Prepared.errorOf p failure),
        { p with cursor := some cursor' }, s.reach s.connection []) := by
      simp only [Session.fetch, Positional.driver, Positional.Prepared.fetch, reads, h]
      rfl
    exact .broken fetched
  | @row cursor cursor' values rows stop h later ih =>
    have fetched : s.fetch p = (.ok (some (Row.zip (Positional.Prepared.columns p) values)),
        { p with cursor := some cursor' }, s.reach s.connection []) := by
      simp only [Session.fetch, Positional.driver, Positional.Prepared.fetch, reads, h]
      rfl
    exact .row fetched (ih rfl (s.reach s.connection []))

/-- A statement with named binds delivers what its cursor hands over, with the column names, if no
name is repeated and no value is missing. -/
theorem Named.delivers {cursor : Cursor} {rows : List (List Value)} {stop : Option Failure}
    (hands : cursor.Hands rows stop) {p : Named.driver.Prepared}
    (reads : Named.Prepared.rows p = some cursor) (distinct : (Named.Prepared.columns p).Nodup)
    (complete : ∀ row ∈ rows, row.length = (Named.Prepared.columns p).length)
    (s : Session Named.driver) :
    s.Delivers p (rows.map (Row.zip (Named.Prepared.columns p)))
      (stop.map (Named.Prepared.errorOf p)) := by
  induction hands generalizing p s with
  | @ended cursor cursor' h =>
    have fetched : s.fetch p = (.ok none,
        { p with rows := some cursor' }, s.reach s.connection []) := by
      simp only [Session.fetch, Named.driver, Named.Prepared.fetch, reads, h]
    exact .ended fetched
  | @broken cursor cursor' failure h =>
    have fetched : s.fetch p = (.error (Named.Prepared.errorOf p failure),
        { p with rows := some cursor' }, s.reach s.connection []) := by
      simp only [Session.fetch, Named.driver, Named.Prepared.fetch, reads, h]
    exact .broken fetched
  | @row cursor cursor' values rows stop h later ih =>
    obtain ⟨count, others⟩ := List.forall_mem_cons.1 complete
    have found := Named.complete_zip distinct count
    have fetched : s.fetch p = (.ok (some (Row.zip (Named.Prepared.columns p) values)),
        { p with rows := some cursor' }, s.reach s.connection []) := by
      simp only [Session.fetch, Named.driver, Named.Prepared.fetch, reads, h, found]
      rfl
    let q : Named.driver.Prepared := { p with rows := some cursor' }
    have reads' : Named.Prepared.rows q = some cursor' := rfl
    exact .row fetched (ih reads' distinct others (s.reach s.connection []))

/-! ## Both adapters -/

/-- The adapters of this library. -/
inductive Adapter where
  /-- Values are bound by position. -/
  | positional
  /-- Values are bound by name. -/
  | named

namespace Adapter

/-- The driver of an adapter. -/
def driver : Adapter → Driver
  | positional => Positional.driver
  | named => Named.driver

/-- The reply to the next execution. -/
def reply : (a : Adapter) → Session a.driver → Reply
  | positional, s => (Connection.next s.connection).1
  | named, s => (Connection.next s.connection).1

/-- Whether the adapter comes to ask the database for a compiled statement: its values have to be
bound, and with named binds each of them needs a name that the database finds in the text. -/
def Asks : Adapter → Compiled → Prop
  | positional, compiled => compiled.Bindable
  | named, compiled => compiled.Asks

/-- The failures that an adapter gives in this library's terms. -/
def knows : Adapter → FailureKind → Bool
  | positional => FailureKind.isDatabase
  | named => fun kind => kind = .toolkit

/-- The form in which an adapter records a value that it binds with a tag. -/
def record : Adapter → Value × Tag → Except Error Value
  | positional => fun bound => Value.convert bound.2 bound.1
  | named => fun bound => Named.Prepared.textual bound.2 bound.1

/-- The form in which an adapter records all values of a statement. -/
def recorded (a : Adapter) (values : List Value) : Except Error (List Value) :=
  (values.map fun value => (value, value.tag)).mapM a.record

/-- What comes of a reply with some columns to a compiled statement, if no execution fails: rows,
and the error that they end with, if they do not end for lack of rows. -/
inductive Answers (a : Adapter) (compiled : Compiled) (reply : Reply) (columns : List String) :
    List (List Value) → Option Error → Prop
  /-- A name is repeated: all names that are, each once, in increasing order. -/
  | repeated {names : List String} (twice : ¬columns.Nodup) (sorted : names.Pairwise (· < ·))
    (exactly : ∀ name, name ∈ names ↔ 1 < columns.count name) :
    Answers a compiled reply columns [] (some (.duplicateColumns names))
  /-- A fetch fails, as the adapter reports it. -/
  | broken {n : Nat} {failure : Failure} {params : List Value} (distinct : columns.Nodup)
    (breaks : reply.fetchFailure = some (n, failure)) (reached : n ≤ reply.rows.length)
    (bound : a.recorded compiled.params = .ok params) :
    Answers a compiled reply columns (reply.rows.take n)
      (some (failure.through a.knows compiled.sql params))
  /-- All rows are fetched. -/
  | all (distinct : columns.Nodup)
    (whole : ∀ n failure, reply.fetchFailure = some (n, failure) → reply.rows.length < n) :
    Answers a compiled reply columns reply.rows none

variable {a : Adapter} {s : Session a.driver} {compiled : Compiled} {columns : List String}

/-- Launching a compiled statement takes the next reply, and the statement is there to deliver what
the reply hands over. -/
theorem launched (asks : a.Asks compiled) (named : (a.reply s).columns = some columns)
    (accepted : (a.reply s).failure = none) :
    ∃ q t, (s.prepare compiled.sql).2.launch (s.prepare compiled.sql).1 compiled.params =
        (.ok (), q, t) ∧ a.driver.columns q = columns ∧
      (columns.Nodup → (∀ row ∈ (a.reply s).rows, row.length = columns.length) →
        ∃ params, a.recorded compiled.params = .ok params ∧
          ∀ rows stop, Cursor.Hands { reply := a.reply s } rows stop →
            (∀ row ∈ rows, row ∈ (a.reply s).rows) →
            t.Delivers q (rows.map (Row.keyed columns))
              (stop.map fun failure => failure.through a.knows compiled.sql params)) := by
  -- Either driver pairs names with values by place; with as many values as different names, these
  -- are the entries of the row.
  have keyed (distinct : columns.Nodup) {rows : List (List Value)}
      (complete : ∀ row ∈ rows, row.length = columns.length) :
      rows.map (Row.zip columns) = rows.map (Row.keyed columns) :=
    List.map_congr_left fun row member => Row.zip_eq_keyed distinct (complete row member)
  cases a with
  | positional =>
    obtain ⟨q, t, launched, given, cursor, -⟩ :=
      Positional.launch_of_accepted accepted compiled.sql asks
    have names : Positional.Prepared.columns q = columns :=
      given.trans (congrArg (·.getD []) named)
    refine ⟨q, t, launched, names, fun distinct complete => ?_⟩
    have prepares := Session.prepares_of_launch (.prepared s.connection) launched
    obtain ⟨sql, params⟩ := Positional.records.of_prepares prepares
    refine ⟨Positional.Prepared.params q, params, fun rows stop hands within => ?_⟩
    have delivers := Positional.delivers hands cursor t
    rw [names, keyed distinct fun row member => complete row (within row member)] at delivers
    rw [← sql]
    exact delivers
  | named =>
    obtain ⟨q, t, launched, given, -, rowsOf, -⟩ := Named.launch_of_accepted accepted asks
    have names : Named.Prepared.columns q = columns := given.trans (congrArg (·.getD []) named)
    have cursor : Named.Prepared.rows q = some { reply := Adapter.named.reply s } :=
      rowsOf.trans (congrArg (Option.map _) named)
    refine ⟨q, t, launched, names, fun distinct complete => ?_⟩
    have prepares := Session.prepares_of_launch (.prepared s.connection) launched
    obtain ⟨sql, params⟩ := Named.records.of_prepares prepares
    refine ⟨Named.Prepared.params q, params, fun rows stop hands within => ?_⟩
    have delivers := Named.delivers hands cursor (names ▸ distinct)
      (fun row member => names ▸ complete row (within row member)) t
    have reports : Named.Prepared.errorOf q = fun failure =>
        failure.through Adapter.named.knows (Named.Prepared.sql q) (Named.Prepared.params q) :=
      funext Named.Prepared.errorOf_eq
    rw [names, keyed distinct fun row member => complete row (within row member), reports, sql]
      at delivers
    exact delivers

/-- A log record does not change which reply comes next. -/
theorem reply_announce (a : Adapter) (s : Session a.driver) (logs : Bool) (compiled : Compiled) :
    a.reply (s.announce logs compiled) = a.reply s := by
  cases a <;> exact congrArg (fun c => (Connection.next c).1) (s.connection_announce logs compiled)

/-- What a reply hands over is all of its rows, or those before a fetch that fails. -/
theorem Answers.of_distinct {reply : Reply} {params : List Value} (distinct : columns.Nodup)
    (bound : a.recorded compiled.params = .ok params) :
    ∃ rows stop, Cursor.Hands { reply := reply } rows stop ∧ (∀ row ∈ rows, row ∈ reply.rows) ∧
      a.Answers compiled reply columns rows
        (stop.map fun failure => failure.through a.knows compiled.sql params) := by
  by_cases breaks : ∃ n failure, reply.fetchFailure = some (n, failure) ∧ n ≤ reply.rows.length
  · obtain ⟨n, failure, breaks, reached⟩ := breaks
    exact ⟨_, _, Reply.hands_broken breaks reached, fun _ => List.mem_of_mem_take,
      .broken distinct breaks reached bound⟩
  · have whole : ∀ n failure, reply.fetchFailure = some (n, failure) → reply.rows.length < n :=
      fun n failure fails => Nat.lt_of_not_le fun reached => breaks ⟨n, failure, fails, reached⟩
    exact ⟨_, _, Reply.hands_all whole, fun _ => id, .all distinct whole⟩

/-- What becomes of a compiled statement that is run, with what comes of the reply: with repeated
names it is refused, otherwise it delivers the rows. -/
inductive Ran (s : Session a.driver) (logs : Bool) (compiled : Compiled) (columns : List String) :
    List (List Value) → Option Error → Prop
  /-- It is there to be read. -/
  | opened {q : a.driver.Prepared} {t : Session a.driver} {rows : List (List Value)}
    {stop : Option Error} (ran : s.run logs compiled = (.ok q, t))
    (delivers : t.Delivers q (rows.map (Row.keyed columns)) stop) :
    Ran s logs compiled columns rows stop
  /-- It is refused. -/
  | refused {e : Error} {t : Session a.driver} (ran : s.run logs compiled = (.error e, t)) :
    Ran s logs compiled columns [] (some e)

/-- Running a compiled statement comes to what its reply does. -/
theorem answers (asks : a.Asks compiled) (named : (a.reply s).columns = some columns)
    (accepted : (a.reply s).failure = none)
    (complete : ∀ row ∈ (a.reply s).rows, row.length = columns.length) :
    ∃ rows stop, a.Answers compiled (a.reply s) columns rows stop ∧
      ∀ logs, Ran s logs compiled columns rows stop := by
  have announced (logs : Bool) := a.reply_announce s logs compiled
  have run (logs : Bool) := launched (s := s.announce logs compiled) asks
    ((announced logs).symm ▸ named) ((announced logs).symm ▸ accepted)
  by_cases distinct : columns.Nodup
  · obtain ⟨_, _, _, _, records⟩ := launched asks named accepted
    obtain ⟨params, bound, -⟩ := records distinct complete
    obtain ⟨rows, stop, hands, within, answer⟩ := Answers.of_distinct distinct bound
    refine ⟨rows, _, answer, fun logs => ?_⟩
    obtain ⟨q, t, launched, names, delivers⟩ := run logs
    have settled : t.settled q = (.ok q, t) := by
      rw [Session.settled, names, repeatedNames_eq_nil_iff.2 distinct]
    rw [announced logs] at delivers
    obtain ⟨params', bound', delivers⟩ := delivers distinct complete
    obtain rfl : params = params' := Except.ok.inj (bound.symm.trans bound')
    exact .opened ((Session.run_of_launch rfl launched).trans settled)
      (delivers rows stop hands within)
  · have some : repeatedNames columns ≠ [] := fun none => distinct (repeatedNames_eq_nil_iff.1 none)
    refine ⟨[], _, .repeated distinct (sorted_repeatedNames columns) fun _ => mem_repeatedNames,
      fun logs => ?_⟩
    obtain ⟨q, t, launched, names, -⟩ := run logs
    rw [← names] at some ⊢
    exact .refused ((Session.run_of_launch rfl launched).trans (Session.settled_of_repeated t some))

/-! ## Reading -/

namespace Ran

variable {logs : Bool} {rows : List (List Value)} {stop : Option Error}

/-- Reading all rows gives them, or the error that they end with. -/
theorem fetchAll (h : Ran s logs compiled columns rows stop) :
    (s.fetchAll logs compiled).1 = endingWith stop (rows.map (Row.keyed columns)) := by
  unfold Session.fetchAll
  cases h with
  | opened ran delivers =>
    have kept : (rows.map (Row.keyed columns)).mapM .ok =
        (.ok ((rows.map (Row.keyed columns)).map id) : Except Error _) :=
      List.mapM_pure
    rw [ran, delivers.collect, kept, List.map_id]
    rfl
  | refused ran =>
    rw [ran]
    rfl

/-- An iterator yields what its transform makes of the rows, up to the first that it refuses. -/
theorem yields (h : Ran s logs compiled columns rows stop) (transform : Transform)
    (spread : Bool) :
    RowIterator.Yields logs (.pending compiled transform spread) s
      (madeUpTo (fun row => (Row.keyed columns row).through transform spread)
        (stop.getD .exhausted) rows).1
      (madeUpTo (fun row => (Row.keyed columns row).through transform spread)
        (stop.getD .exhausted) rows).2 := by
  cases h with
  | opened ran delivers =>
    rw [← madeUpTo_map (fun row => row.through transform spread) (Row.keyed columns)]
    exact RowIterator.yields_of_run ran (RowIterator.yields_of_delivers delivers)
  | refused ran => exact RowIterator.yields_of_run_error ran

/-- All values of an iterator at once: what its transform makes of every row, or the first error. -/
theorem rest (h : Ran s logs compiled columns rows stop) (transform : Transform) (spread : Bool) :
    ((RowIterator.pending compiled transform spread).rest logs s).1 =
      (rows.mapM fun row => (Row.keyed columns row).through transform spread).bind
        (endingWith stop) := by
  cases h with
  | opened ran delivers =>
    simp only [RowIterator.rest, ran]
    rw [delivers.collect, List.mapM_map]
    rfl
  | refused ran =>
    simp only [RowIterator.rest, ran]
    rfl

end Ran

/-! ## Refused statements -/

/-- The lines of a statement that is closed right after it was executed. -/
def unread (d : Driver) (logs : Bool) (number : Nat) (compiled : Compiled) : List Line :=
  (Session.announcement (d := d.watched) logs compiled).map Entry.line ++
    .call number (.prepare compiled.sql) :: (Session.accepted number 0 compiled.params ++
      [.call number (.execute (.ok ())), .call number .close])

/-- A statement that was executed and has repeated names is closed at once. -/
theorem run_repeated {d : Driver} {w t : Session d.watched} {logs : Bool} {q : d.watched.Prepared}
    (launched : ((w.announce logs compiled).prepare compiled.sql).2.launch
      ((w.announce logs compiled).prepare compiled.sql).1 compiled.params = (.ok (), q, t))
    (repeated : repeatedNames (d.watched.columns q) ≠ []) :
    ∃ e t', w.run logs compiled = (.error e, t') ∧
      t'.lines = w.lines ++ unread d logs w.prepares compiled := by
  have announced := Session.adds_announce w logs compiled
  obtain ⟨number, -, prepared⟩ := Session.adds_prepare (w.announce logs compiled) compiled.sql
  rw [announced.prepares] at number prepared
  obtain ⟨kept, lines, adds, tried⟩ :=
    Session.launch_tried (w.took_prepare_watched logs compiled) launched
  have closes := Session.adds_close t q
  rw [kept.trans number] at closes
  rw [number] at tried
  refine ⟨_, _, (Session.run_of_launch rfl launched).trans (t.settled_of_repeated repeated), ?_⟩
  cases tried with
  | executed executes =>
    rw [(adds.trans closes).lines, prepared, announced.lines, unread]
    simp only [List.append_assoc, List.cons_append, List.nil_append]

/-- With repeated names no row is fetched. -/
theorem unread_of_repeated {w : Session a.driver.watched} (asks : a.Asks compiled)
    (named : (a.reply (a.driver.watchedCover.session w)).columns = some columns)
    (accepted : (a.reply (a.driver.watchedCover.session w)).failure = none)
    (twice : ¬columns.Nodup) (logs : Bool) :
    ∃ e t, w.run logs compiled = (.error e, t) ∧
      t.lines = w.lines ++ unread a.driver logs w.prepares compiled := by
  let cover := a.driver.watchedCover
  rw [← a.reply_announce _ logs compiled, ← cover.session_announce] at named accepted
  obtain ⟨q, t, launched, names, -⟩ := launched asks named accepted
  rw [cover.session_prepare, cover.session_launch] at launched
  let ran := ((w.announce logs compiled).prepare compiled.sql).2.launch
    ((w.announce logs compiled).prepare compiled.sql).1 compiled.params
  have outcome : ran.1 = .ok () := congrArg Prod.fst launched
  have statement : cover.prepared ran.2.1 = q := congrArg (fun r => r.2.1) launched
  have repeated : repeatedNames (a.driver.watched.columns ran.2.1) ≠ [] := by
    rw [← cover.columns, statement, names]
    exact fun none => twice (repeatedNames_eq_nil_iff.1 none)
  exact run_repeated (Prod.ext outcome rfl) repeated

/-- A compiled statement for which the database does not come to be asked fails and takes no
reply. -/
theorem run_of_not_asks (s : Session a.driver) (logs : Bool) (h : ¬a.Asks compiled) :
    ∃ e t, s.run logs compiled = (.error e, t) ∧ t.connection = s.connection := by
  cases a with
  | positional =>
    obtain ⟨t, ran, kept⟩ := Positional.run_of_not_bindable s logs h
    exact ⟨_, t, ran, kept⟩
  | named => exact Named.run_of_not_asks s logs h

/-- The rows that come of a reply are among its rows. -/
theorem Answers.within {reply : Reply} {rows : List (List Value)} {stop : Option Error}
    (h : a.Answers compiled reply columns rows stop) : ∀ row ∈ rows, row ∈ reply.rows := by
  cases h with
  | repeated => exact fun _ member => absurd member List.not_mem_nil
  | broken => exact fun _ => List.mem_of_mem_take
  | all => exact fun _ => id

end Adapter

open Adapter (Answers Ran unread)
open RowIterator (Yields pending)

/-- Rows arrive complete and in order. With either adapter, on a reply whose execution does not fail
and whose rows have a value for each column: if a name is repeated, reading fails with exactly the
repeated names, and no row is fetched; if a fetch comes to fail, reading fails as the adapter
reports it; otherwise there is one row for each row of the reply, in order, with the columns and
values in order. The first row is the head of these. An iterator yields them one by one, up to the
failure, and spread out it hands the values of each row to its transform as they are. A statement
for which the database does not come to be asked takes no reply. -/
theorem rows_complete_in_order (a : Adapter) {st : Statement a.driver} {s : Session a.driver}
    (present : st.session = some s) {columns : List String}
    (named : (a.reply s).columns = some columns) (accepted : (a.reply s).failure = none)
    (complete : ∀ row ∈ (a.reply s).rows, row.length = columns.length) :
    (∀ compiled, st.state.compile = .ok compiled → a.Asks compiled →
      ∃ rows stop, a.Answers compiled (a.reply s) columns rows stop ∧
        st.get.1 = endingWith stop (rows.map (Row.keyed columns)) ∧
        (∀ transform spread, st.morph transform spread = .ok (pending compiled transform spread)) ∧
        ∀ logs,
          Yields logs (pending compiled Transform.whole false) s
            (rows.map fun row => (Row.keyed columns row).toValue) (stop.getD .exhausted) ∧
          ((pending compiled Transform.whole false).rest logs s).1 =
            endingWith stop (rows.map fun row => (Row.keyed columns row).toValue) ∧
          ∀ transform, Yields logs (pending compiled transform true) s
            (madeUpTo transform (stop.getD .exhausted) rows).1
            (madeUpTo transform (stop.getD .exhausted) rows).2) ∧
    (∀ compiled, { st.state with limit := some (.int 1) }.compile = .ok compiled →
      a.Asks compiled → ∃ rows stop, a.Answers compiled (a.reply s) columns rows stop ∧
        st.first.1 = endingWith stop (rows.map (Row.keyed columns)).head?) ∧
    (¬columns.Nodup → ∀ w, a.driver.watchedCover.session w = s →
      ∀ logs compiled, a.Asks compiled →
        (w.fetchAll logs compiled).2.lines =
          w.lines ++ unread a.driver logs w.prepares compiled ∧
        ∀ transform spread, ((pending compiled transform spread).next logs w).2.2.lines =
          w.lines ++ unread a.driver logs w.prepares compiled) ∧
    (∀ logs compiled, ¬a.Asks compiled →
      ∃ e t, s.run logs compiled = (.error e, t) ∧ t.connection = s.connection) := by
  refine ⟨fun compiled compiles asks => ?_, fun compiled compiles asks => ?_,
    fun twice w same logs compiled asks => ?_, fun logs _ => Adapter.run_of_not_asks s logs⟩
  · obtain ⟨rows, stop, answer, ran⟩ := Adapter.answers asks named accepted complete
    have whole (row : List Value) : (Row.keyed columns row).through Transform.whole false =
        .ok (Row.keyed columns row).toValue := rfl
    refine ⟨rows, stop, answer, ?_, ?_, fun logs => ⟨?_, ?_, fun transform => ?_⟩⟩
    · simp only [Statement.get, Statement.running, compiles, present]
      exact (ran _).fetchAll
    · intro transform spread
      simp only [Statement.morph, compiles, present]
    · have yields := (ran logs).yields Transform.whole false
      rwa [madeUpTo_of_ok whole] at yields
    · have kept : (rows.mapM fun row => (Row.keyed columns row).through Transform.whole false) =
          .ok (rows.map fun row => (Row.keyed columns row).toValue) :=
        List.mapM_pure
      rw [(ran logs).rest, kept]
      rfl
    -- Spread out, a row is no more than its values again.
    · have values : ∀ row ∈ rows, (Row.keyed columns row).through transform true = transform row :=
        fun row member => congrArg transform
          (Row.values_keyed (complete row (answer.within row member)))
      have yields := (ran logs).yields transform true
      rwa [madeUpTo_congr _ values] at yields
  · obtain ⟨rows, stop, answer, ran⟩ := Adapter.answers asks named accepted complete
    refine ⟨rows, stop, answer, ?_⟩
    simp only [Statement.first, Statement.get, Statement.running, compiles, present]
    rw [(ran _).fetchAll]
    cases stop <;> rfl
  · subst same
    obtain ⟨e, t, ran, lines⟩ := Adapter.unread_of_repeated asks named accepted twice logs
    refine ⟨?_, fun transform spread => ?_⟩
    · simp only [Session.fetchAll, ran, lines]
    · simp only [RowIterator.next, ran, lines]

/-- A connection whose second fetch fails. -/
def brokenUsers : Connection where
  script := [{
    columns := some ["id", "name"]
    rows := [[.int 1, .text "a"], [.int 2, .null]]
    fetchFailure := some (1, ⟨.toolkit, "gone"⟩) }]

/-- A statement with a value in WHERE on that connection. -/
def usersReader : Statement Named.driver :=
  let text (s : String) : Arg := .value (.text s)
  (Call.runAll
    [.readFrom (text "users") (.value .null),
      .require .rows (text "id") (text ">") (.value (.int 0)) (text "AND")]
    { session := some { connection := brokenUsers } }).2

/-- All rows of the statement are lost to the failure, but an iterator yields the first one. -/
theorem rows_complete_in_order_brokenUsers :
    let compiled : Compiled := { sql := "SELECT * FROM users WHERE id > ?", params := [.int 0] }
    let gone : Error := .rejected ⟨.toolkit, "gone"⟩ compiled.sql compiled.params
    usersReader.get.1 = .error gone ∧
      Yields false (pending compiled Transform.whole false)
        ({ connection := brokenUsers } : Session Named.driver)
        [.mapping [(.text "id", .int 1), (.text "name", .text "a")]] gone := by
  intro compiled gone
  let s : Session Named.driver := { connection := brokenUsers }
  have present : usersReader.session = some s := rfl
  have compiles : usersReader.state.compile = .ok compiled := rfl
  have named : (Adapter.named.reply s).columns = some ["id", "name"] := rfl
  have complete : ∀ row ∈ (Adapter.named.reply s).rows, row.length = ["id", "name"].length := by
    simp [s, Adapter.reply, brokenUsers, Connection.next]
  have asks : Adapter.named.Asks compiled := by
    exact ⟨by simp [Compiled.Bindable, compiled, Value.isBindable, Value.tag], by decide +kernel,
      by decide +kernel⟩
  obtain ⟨reads, -⟩ := rows_complete_in_order .named present named rfl complete
  obtain ⟨rows, stop, answer, get, -, yields⟩ := reads compiled compiles asks
  cases answer with
  | repeated twice => exact absurd (by decide) twice
  | broken distinct breaks reached bound =>
    cases breaks
    cases bound
    exact ⟨get, (yields false).1⟩
  | all distinct whole => exact absurd (whole 1 _ rfl) (by decide)

end SqlBuilder
