import SqlBuilder.Driver.Named
import SqlBuilder.Driver.Positional
import SqlBuilder.Execution.Basic

/-!
# Replies without failures

What the positional driver and the driver with named binds make of a reply that fails nowhere. All
values are bound, the execution takes the reply, and each fetch gives its next row: one zips the
values with the columns of its cursor, the other looks each column up, which comes to the same when
no name is repeated and no value is missing. With named binds the database has to know the names.
-/

set_option autoImplicit false

namespace SqlBuilder

open Sql (Compiled toNamedBinds bindNames)

/-! ## Rows -/

namespace Row

/-- Pairs with different names are put in a row in their order. -/
theorem foldl_put (pairs : List (String × Value)) {more : List (String × Value)}
    (distinct : ((pairs ++ more).map Prod.fst).Nodup) :
    more.foldl (fun (row : Row) pair => row.put pair.1 pair.2) ⟨pairs⟩ = ⟨pairs ++ more⟩ := by
  induction more generalizing pairs with
  | nil => rw [List.append_nil, List.foldl_nil]
  | cons pair rest ih =>
    have fresh : pair.1 ∉ pairs.map Prod.fst := by
      rw [List.map_append, List.map_cons] at distinct
      exact fun known => (List.nodup_append.1 distinct).2.2 _ known _ List.mem_cons_self rfl
    rw [List.foldl_cons, put, putIn_of_notMem fresh, ih, List.append_assoc]
    · rfl
    · rwa [List.append_assoc]

/-- Columns with different names keep their order and their values. -/
theorem ofPairs_of_nodup {pairs : List (String × Value)} (distinct : (pairs.map Prod.fst).Nodup) :
    ofPairs pairs = ⟨pairs⟩ :=
  foldl_put [] distinct

/-- What stands beside a name among different names. -/
theorem lookup_of_mem {α : Type} {pairs : List (String × α)}
    (distinct : (pairs.map Prod.fst).Nodup) {pair : String × α} (h : pair ∈ pairs) :
    pairs.lookup pair.1 = some pair.2 := by
  induction pairs with
  | nil => cases h
  | cons first rest ih =>
    obtain ⟨name, value⟩ := first
    rw [List.map_cons, List.nodup_cons] at distinct
    rcases List.mem_cons.1 h with rfl | later
    · exact List.lookup_cons_self
    · have known : pair.1 ∈ rest.map Prod.fst := List.mem_map_of_mem later
      have other : pair.1 ≠ name := fun same => distinct.1 (same ▸ known)
      rw [List.lookup_cons, beq_eq_false_iff_ne.2 other]
      exact ih distinct.2 later

end Row

/-- Looking up columns that a row has gives them back. -/
theorem Named.mapM_get? {row : Row} {pairs : List (String × Value)}
    (has : ∀ pair ∈ pairs, row.get? pair.1 = some pair.2) :
    (pairs.map Prod.fst).mapM (fun name => (row.get? name).map fun value => (name, value)) =
      some pairs := by
  induction pairs with
  | nil => rfl
  | cons pair rest ih =>
    have later := ih fun other member => has other (List.mem_cons_of_mem pair member)
    rw [List.map_cons, List.mapM_cons, has pair List.mem_cons_self, later]
    rfl

/-- A row with a value for each of its columns is complete as it is. -/
theorem Named.complete_zip {columns : List String} (distinct : columns.Nodup) {values : List Value}
    (count : values.length = columns.length) :
    Prepared.complete columns (Row.zip columns values) = .ok (Row.zip columns values) := by
  have names : (columns.zip values).map Prod.fst = columns :=
    List.map_fst_zip (Nat.le_of_eq count.symm)
  have distinct : ((columns.zip values).map Prod.fst).Nodup := by rwa [names]
  have row : Row.zip columns values = ⟨columns.zip values⟩ := Row.ofPairs_of_nodup distinct
  have has : ∀ pair ∈ columns.zip values,
      (⟨columns.zip values⟩ : Row).get? pair.1 = some pair.2 :=
    fun pair member => Row.lookup_of_mem distinct member
  have found := mapM_get? has
  rw [names] at found
  rw [row, Prepared.complete, found]
  exact congrArg Except.ok (Row.ofPairs_of_nodup distinct)

/-- Without repeated names all names are different. -/
theorem nodup_of_repeatedNames {names : List String} (h : repeatedNames names = []) :
    names.Nodup := by
  have none : ∀ name ∈ names, ¬ 1 < names.count name := by
    intro name member more
    have repeated : name ∈ repeatedNames names := by
      simp [repeatedNames, member, more]
    rw [h] at repeated
    cases repeated
  apply List.nodup_iff_count.2
  intro name
  by_cases member : name ∈ names
  · exact Nat.le_of_not_lt (none name member)
  · rw [List.count_eq_zero_of_not_mem member]
    exact Nat.zero_le 1

/-! ## Replies without failures -/

/-- A reply that fails nowhere, where rows come only with column names, and with a value for each.
-/
structure Reply.Regular (reply : Reply) : Prop where
  /-- The execution does not fail. -/
  accepted : reply.failure = none
  /-- No fetch fails. -/
  fetched : reply.fetchFailure = none
  /-- Without column names there are no rows. -/
  named : reply.columns = none → reply.rows = []
  /-- Each row has as many values as there are columns. -/
  complete : ∀ columns, reply.columns = some columns →
    ∀ row ∈ reply.rows, row.length = columns.length

/-- A script of replies without failures. -/
def Connection.Regular (c : Connection) : Prop :=
  ∀ reply ∈ c.script, reply.Regular

/-- A regular connection gives a regular reply and is regular afterwards. -/
theorem Connection.Regular.next {c : Connection} (h : c.Regular) :
    c.next.1.Regular ∧ c.next.2.Regular := by
  unfold Connection.next
  split
  · exact ⟨⟨rfl, rfl, fun _ => rfl, fun _ none => by cases none⟩, h⟩
  · rename_i reply rest script
    have all : ∀ r ∈ reply :: rest, r.Regular := script ▸ h
    exact ⟨all reply List.mem_cons_self, fun r member => all r (List.mem_cons_of_mem reply member)⟩

/-- A cursor over a reply without failures gives its rows one by one. -/
theorem Reply.Regular.fetch {cursor : Cursor} (h : cursor.reply.Regular) :
    cursor.fetch = match cursor.reply.rows[cursor.fetched]? with
      | some row => (.ok (some row), { cursor with fetched := cursor.fetched + 1 })
      | none => (.ok none, cursor) := by
  unfold Cursor.fetch Cursor.failure?
  rw [h.fetched]
  cases cursor.reply.rows[cursor.fetched]? <;> rfl

/-! ## Launching -/

namespace Session

variable {d : Driver}

/-- What a session makes of a contact with the driver. -/
def after {α : Type} (s : Session d) (contact : Contact d.Connection d.Prepared d.Event α) :
    Except Error α × d.Prepared × Session d :=
  (contact.outcome, contact.prepared, s.reach contact.connection contact.events)

/-- What becomes of a statement that was executed: with repeated column names it is refused. -/
def settled (s : Session d) (p : d.Prepared) : Except Error d.Prepared × Session d :=
  match repeatedNames (d.columns p) with
  | [] => (.ok p, s)
  | names => (.error (.duplicateColumns names), (s.close p).2)

/-- A statement that is settled without an error is left as it was. -/
theorem of_settled {s t : Session d} {p q : d.Prepared} (h : s.settled p = (.ok q, t)) :
    q = p ∧ t = s := by
  unfold settled at h
  split at h
  · cases h
    exact ⟨rfl, rfl⟩
  · cases h

/-- A compiled statement that is bound and executed runs once it is settled. -/
theorem run_of_launch {s s₁ s₂ : Session d} {logs : Bool} {compiled : Compiled}
    {p q : d.Prepared} (prepared : (s.announce logs compiled).prepare compiled.sql = (p, s₁))
    (launched : s₁.launch p compiled.params = (.ok (), q, s₂)) :
    s.run logs compiled = s₂.settled q := by
  unfold run
  rw [prepared]
  dsimp only
  rw [launched]
  rfl

/-- A compiled statement that cannot be bound or executed ends with that error, and is closed if it
is one in this library's terms. -/
theorem run_of_failed {s s₁ s₂ : Session d} {logs : Bool} {compiled : Compiled}
    {p q : d.Prepared} {e : Error}
    (prepared : (s.announce logs compiled).prepare compiled.sql = (p, s₁))
    (launched : s₁.launch p compiled.params = (.error e, q, s₂)) :
    s.run logs compiled = (.error e, if e.isDriverError then
      ((s₂.log .error (failureMessage compiled)).close q).2 else s₂) := by
  unfold run
  rw [prepared]
  dsimp only
  rw [launched]
  dsimp only
  split <;> rfl

/-- After a value that is accepted the others are bound. -/
theorem bindFrom_of_ok {s t : Session d} {p q : d.Prepared} {position : Nat} {value : Value}
    (bound : s.bind p position value value.tag = (.ok (), q, t)) (rest : List Value) :
    s.bindFrom p position (value :: rest) = t.bindFrom q (position + 1) rest := by
  rw [bindFrom, bound]

/-- A value that is refused ends the binding. -/
theorem bindFrom_of_error {s t : Session d} {p q : d.Prepared} {position : Nat} {value : Value}
    {e : Error} (refused : s.bind p position value value.tag = (.error e, q, t))
    (rest : List Value) : s.bindFrom p position (value :: rest) = (.error e, q, t) := by
  rw [bindFrom, refused]

/-- Once all values are bound the statement is executed. -/
theorem launch_of_ok {s t : Session d} {p q : d.Prepared} {values : List Value}
    (bound : s.bindFrom p 0 values = (.ok (), q, t)) : s.launch p values = t.execute q := by
  rw [launch, bound]

/-- A statement with a value that is refused is not executed. -/
theorem launch_of_error {s t : Session d} {p q : d.Prepared} {values : List Value} {e : Error}
    (refused : s.bindFrom p 0 values = (.error e, q, t)) :
    s.launch p values = (.error e, q, t) := by
  rw [launch, refused]

end Session

/-- Whether each value of a compiled statement can be bound under its own tag. -/
def Sql.Compiled.Bindable (compiled : Compiled) : Prop :=
  ∀ value ∈ compiled.params, value.isBindable = true

namespace Positional

variable (s : Session driver) (p : Prepared) {value : Value}

/-- A value in its place is bound in the form that its tag asks for. -/
theorem bind_of_bindable (bindable : value.isBindable = true) :
    ∃ converted, s.bind p p.params.length value value.tag =
      (.ok (), { p with params := p.params ++ [converted] }, s.reach s.connection []) := by
  obtain ⟨converted, ok⟩ := Value.convert_tag bindable
  exact ⟨converted, by
    simp only [Session.bind, driver, Prepared.bind, ok, ne_eq, not_true_eq_false, if_false]⟩

/-- A value without a text is refused. -/
theorem bind_of_not_bindable (unbindable : value.isBindable = false) :
    s.bind p p.params.length value value.tag =
      (.error .badValue, p, s.reach s.connection []) := by
  simp only [Session.bind, driver, Prepared.bind, Value.convert_tag_of_not_bindable unbindable,
    ne_eq, not_true_eq_false, if_false]

/-- Values are bound one after another. -/
theorem bindFrom_eq {values : List Value} (bindable : ∀ value ∈ values, value.isBindable = true) :
    ∃ params t, s.bindFrom p p.params.length values = (.ok (), { p with params := params }, t) ∧
      t.connection = s.connection := by
  induction values generalizing s p with
  | nil => exact ⟨p.params, s, rfl, rfl⟩
  | cons value rest ih =>
    obtain ⟨converted, bound⟩ := bind_of_bindable s p (bindable value List.mem_cons_self)
    obtain ⟨params, t, later, connection⟩ :=
      ih (s.reach s.connection []) { p with params := p.params ++ [converted] }
        fun v member => bindable v (List.mem_cons_of_mem value member)
    rw [List.length_append, List.length_singleton] at later
    exact ⟨params, t, (Session.bindFrom_of_ok bound rest).trans later, connection⟩

/-- The first value without a text is refused, and with it all values. -/
theorem bindFrom_of_not_bindable {values : List Value}
    (unbindable : ¬∀ value ∈ values, value.isBindable = true) :
    ∃ q t, s.bindFrom p p.params.length values = (.error .badValue, q, t) ∧
      t.connection = s.connection := by
  induction values generalizing s p with
  | nil => exact absurd (fun _ member => nomatch member) unbindable
  | cons value rest ih =>
    cases here : value.isBindable with
    | false =>
      exact ⟨_, _, Session.bindFrom_of_error (bind_of_not_bindable s p here) rest, rfl⟩
    | true =>
      obtain ⟨converted, bound⟩ := bind_of_bindable s p here
      obtain ⟨q, t, later, connection⟩ :=
        ih (s.reach s.connection []) { p with params := p.params ++ [converted] }
          fun all => unbindable (List.forall_mem_cons.2 ⟨here, all⟩)
      rw [List.length_append, List.length_singleton] at later
      exact ⟨q, t, (Session.bindFrom_of_ok bound rest).trans later, connection⟩

/-- Binding by position, what an accepted execution makes of the statement and the connection. -/
theorem execute_of_accepted (p : Prepared) {c : Connection} (accepted : c.next.1.failure = none) :
    p.execute c =
      ⟨.ok (), { p with
          columns := c.next.1.columns.getD []
          cursor := some { reply := c.next.1 } },
        { c.next.2 with lastInsertId := c.next.1.lastRowId.orElse .null },
        [.executedPositional p.sql p.params]⟩ := by
  simp only [Prepared.execute, accepted]

/-- What a fetch finds on a reply without failures. -/
theorem fetch_of_regular {p : Prepared} {cursor : Cursor} (reads : p.cursor = some cursor)
    (regular : cursor.reply.Regular) (c : Connection) :
    p.fetch c = match cursor.reply.rows[cursor.fetched]? with
      | some row =>
        ⟨.ok (some (Row.zip p.columns row)),
          { p with cursor := some { cursor with fetched := cursor.fetched + 1 } }, c, []⟩
      | none => ⟨.ok none, p, c, []⟩ := by
  unfold Prepared.fetch
  rw [reads]
  dsimp only
  rw [regular.fetch]
  cases cursor.reply.rows[cursor.fetched]? with
  | some row => rfl
  | none =>
    rw [← reads]
    rfl

/-- Binding by position, closing leaves the connection alone. -/
theorem connection_close (p : Prepared) (c : Connection) : (p.close c).2.1 = c := by
  unfold Prepared.close
  split <;> rfl

/-- Binding all values and executing takes the next reply, if it is no failure. -/
theorem launch_of_accepted {s : Session driver} (accepted : s.connection.next.1.failure = none)
    (sql : String) {values : List Value} (bindable : ∀ value ∈ values, value.isBindable = true) :
    ∃ (p : Prepared) (t : Session driver),
      (s.prepare sql).2.launch (s.prepare sql).1 values = (.ok (), p, t) ∧
      p.columns = s.connection.next.1.columns.getD [] ∧
      p.cursor = some { reply := s.connection.next.1 } ∧
      t.connection =
        { s.connection.next.2 with
          lastInsertId := s.connection.next.1.lastRowId.orElse .null } := by
  let started := s.prepare sql
  have unchanged : started.2.connection = s.connection := rfl
  obtain ⟨params, t, bound, untouched⟩ := bindFrom_eq started.2 { sql := sql } bindable
  rw [unchanged] at untouched
  rw [← untouched] at accepted ⊢
  have executed := execute_of_accepted { sql := sql, params := params } accepted
  have contact : t.execute (d := driver) { sql := sql, params := params } = _ :=
    congrArg t.after executed
  exact ⟨_, _, (Session.launch_of_ok bound).trans contact, rfl, rfl, rfl⟩

/-- Running a compiled statement takes the next reply, if it is no failure. -/
theorem run_of_accepted {s : Session driver} (accepted : s.connection.next.1.failure = none)
    (logs : Bool) {compiled : Compiled} (bindable : compiled.Bindable) :
    ∃ (p : Prepared) (t : Session driver), s.run logs compiled = t.settled p ∧
      p.columns = s.connection.next.1.columns.getD [] ∧
      p.cursor = some { reply := s.connection.next.1 } ∧
      t.connection =
        { s.connection.next.2 with
          lastInsertId := s.connection.next.1.lastRowId.orElse .null } := by
  have unchanged := s.connection_announce logs compiled
  rw [← unchanged] at accepted ⊢
  obtain ⟨p, t, launched, left⟩ := launch_of_accepted accepted compiled.sql bindable
  exact ⟨p, t, Session.run_of_launch rfl launched, left⟩

/-- A compiled statement with a value without a text fails and takes no reply. -/
theorem run_of_not_bindable (s : Session driver) (logs : Bool) {compiled : Compiled}
    (unbindable : ¬compiled.Bindable) :
    ∃ t, s.run logs compiled = (.error .badValue, t) ∧ t.connection = s.connection := by
  let started := (s.announce logs compiled).prepare compiled.sql
  obtain ⟨q, t, bound, untouched⟩ :=
    bindFrom_of_not_bindable started.2 { sql := compiled.sql } unbindable
  exact ⟨t, Session.run_of_failed rfl (Session.launch_of_error bound),
    untouched.trans (s.connection_announce logs compiled)⟩

end Positional

/-- A compiled statement whose rewriting has one name for each value, each known to the database. -/
structure Sql.Compiled.Nameable (compiled : Compiled) : Prop where
  /-- There is one name for each value. -/
  count : (toNamedBinds compiled.sql).2.length = compiled.params.length
  /-- The database finds every name. -/
  known : ∀ name ∈ (toNamedBinds compiled.sql).2, name ∈ bindNames (toNamedBinds compiled.sql).1

/-- A compiled statement whose values can be bound, and whose rewriting has a name for each of them
that is known to the database. -/
structure Sql.Compiled.Asks (compiled : Compiled) : Prop where
  /-- Each value can be bound. -/
  bindable : compiled.Bindable
  /-- There are enough names. -/
  enough : compiled.params.length ≤ (toNamedBinds compiled.sql).2.length
  /-- The database finds every name of a value. -/
  known : ∀ name ∈ (toNamedBinds compiled.sql).2.take compiled.params.length,
    name ∈ bindNames (toNamedBinds compiled.sql).1

/-- With names for its values a statement whose values can be bound asks the database. -/
theorem Sql.Compiled.Nameable.asks {compiled : Compiled} (h : compiled.Nameable)
    (bindable : compiled.Bindable) : compiled.Asks :=
  ⟨bindable, Nat.le_of_eq h.count.symm,
    fun name member => h.known name (List.mem_of_mem_take member)⟩

namespace Named

variable (s : Session driver) (p : Prepared) {value : Value}

/-- A value in its place is bound under the name of its placeholder. -/
theorem bind_of_bindable {name : String} (found : p.names[p.binds.length]? = some name)
    (bindable : value.isBindable = true) :
    ∃ shown, s.bind p p.binds.length value value.tag =
      (.ok (), { p with
        binds := p.binds ++ [(name, shown, value.tag)]
        params := p.params ++ [shown] }, s.reach s.connection []) := by
  obtain ⟨shown, ok⟩ := Prepared.textual_tag bindable
  exact ⟨shown, by simp only [Session.bind, driver, Prepared.bind, found, if_true, ok]⟩

/-- A value without a text is refused. -/
theorem bind_of_not_bindable {name : String} (found : p.names[p.binds.length]? = some name)
    (unbindable : value.isBindable = false) :
    s.bind p p.binds.length value value.tag =
      (.error .badValue, p, s.reach s.connection []) := by
  simp only [Session.bind, driver, Prepared.bind, found, if_true,
    Prepared.textual_tag_of_not_bindable unbindable]

/-- Values are bound one after another, each under the next name. -/
theorem bindFrom_eq {values : List Value} (bindable : ∀ value ∈ values, value.isBindable = true)
    (enough : p.binds.length + values.length ≤ p.names.length)
    (named : p.binds.map Prod.fst = p.names.take p.binds.length) :
    ∃ binds params t, s.bindFrom p p.binds.length values =
        (.ok (), { p with binds := binds, params := params }, t) ∧
      binds.map Prod.fst = p.names.take (p.binds.length + values.length) ∧
      t.connection = s.connection := by
  induction values generalizing s p with
  | nil => exact ⟨p.binds, p.params, s, rfl, named, rfl⟩
  | cons value rest ih =>
    rw [List.length_cons] at enough ⊢
    have here : p.binds.length < p.names.length := by omega
    have found : p.names[p.binds.length]? = some p.names[p.binds.length] :=
      List.getElem?_eq_getElem here
    obtain ⟨shown, bound⟩ := bind_of_bindable s p found (bindable value List.mem_cons_self)
    let more := p.binds ++ [(p.names[p.binds.length], shown, value.tag)]
    let next := { p with binds := more, params := p.params ++ [shown] }
    have length : more.length = p.binds.length + 1 := List.length_append
    have named' : more.map Prod.fst = p.names.take more.length := by
      rw [length, List.map_append, named, List.take_add_one, found]
      rfl
    obtain ⟨binds, params, t, later, names, connection⟩ :=
      ih (s.reach s.connection []) next
        (fun v member => bindable v (List.mem_cons_of_mem value member))
        (by simp only [next, length]; omega) named'
    simp only [next, length, Nat.add_assoc, Nat.add_comm 1] at later names
    exact ⟨binds, params, t, (Session.bindFrom_of_ok bound rest).trans later, names, connection⟩

/-- Binding by name, what an accepted execution makes of the statement and the connection. -/
theorem execute_of_accepted {p : Prepared} {c : Connection} (known : p.bindsKnown = true)
    (accepted : c.next.1.failure = none) :
    p.execute c =
      ⟨.ok (), p.accept c.next.1,
        if Prepared.inserts p.sql then
          { c.next.2 with lastInsertId := c.next.1.lastRowId.orElse .null }
        else c.next.2,
        [.executedNamed p.namedSql p.parameters]⟩ := by
  simp only [Prepared.execute, known, accepted]
  rfl

/-- Binding by name, a fresh statement takes the columns and the rows of the reply that it is given.
-/
theorem accept_of_fresh (p : Prepared) (reply : Reply) (columns : p.columns = [])
    (rows : p.rows = none) : (p.accept reply).columns = reply.columns.getD [] ∧
      (p.accept reply).reply = some reply ∧
      (p.accept reply).rows = reply.columns.map fun _ => { reply := reply } := by
  unfold Prepared.accept
  split
  · rename_i names result
    exact ⟨by rw [result]; rfl, rfl, by rw [result]; rfl⟩
  · rename_i result
    exact ⟨by rw [result, columns]; rfl, rfl, by rw [result, rows]; rfl⟩

/-- What a fetch finds on a reply without failures. -/
theorem fetch_of_regular {p : Prepared} {cursor : Cursor} (reads : p.rows = some cursor)
    (regular : cursor.reply.Regular) (columns : cursor.reply.columns = some p.columns)
    (distinct : p.columns.Nodup) (c : Connection) :
    p.fetch c = match cursor.reply.rows[cursor.fetched]? with
      | some row =>
        ⟨.ok (some (Row.zip p.columns row)),
          { p with rows := some { cursor with fetched := cursor.fetched + 1 } }, c, []⟩
      | none => ⟨.ok none, p, c, []⟩ := by
  unfold Prepared.fetch
  rw [reads]
  dsimp only
  rw [regular.fetch]
  cases found : cursor.reply.rows[cursor.fetched]? with
  | some row =>
    have count := regular.complete p.columns columns row (List.mem_of_getElem? found)
    dsimp only
    rw [complete_zip distinct count]
    rfl
  | none =>
    rw [← reads]

/-- Binding by name, closing leaves the connection alone. -/
theorem connection_close (p : Prepared) (c : Connection) : (p.close c).2.1 = c := by
  unfold Prepared.close
  split <;> rfl

/-- Binding all values and executing takes the next reply, if the database knows the binds and the
reply is no failure. -/
theorem launch_of_accepted {s : Session driver} (accepted : s.connection.next.1.failure = none)
    {compiled : Compiled} (asks : compiled.Asks) :
    ∃ (p : Prepared) (t : Session driver),
      (s.prepare compiled.sql).2.launch (s.prepare compiled.sql).1 compiled.params =
        (.ok (), p, t) ∧
      p.columns = s.connection.next.1.columns.getD [] ∧
      p.reply = some s.connection.next.1 ∧
      p.rows = s.connection.next.1.columns.map (fun _ => { reply := s.connection.next.1 }) ∧
      t.connection =
        if Prepared.inserts compiled.sql then
          { s.connection.next.2 with lastInsertId := s.connection.next.1.lastRowId.orElse .null }
        else s.connection.next.2 := by
  let started := s.prepare compiled.sql
  have unchanged : started.2.connection = s.connection := rfl
  let p := Prepared.ofSql compiled.sql
  obtain ⟨binds, params, t, bound, named, untouched⟩ := bindFrom_eq started.2 p asks.bindable
    ((Nat.zero_add _).symm ▸ asks.enough) rfl
  let filled := { p with binds := binds, params := params }
  rw [unchanged] at untouched
  rw [← untouched] at accepted ⊢
  have names : binds.map Prod.fst = p.names.take compiled.params.length :=
    named.trans (congrArg p.names.take (Nat.zero_add _))
  -- Every value is bound under a name of the rewriting, and the database knows those.
  have known : filled.bindsKnown = true := by
    apply List.all_eq_true.2
    intro bind member
    have listed : bind.1 ∈ p.names.take compiled.params.length :=
      names ▸ List.mem_map_of_mem member
    exact List.contains_iff_mem.2 (asks.known bind.1 listed)
  have executed := execute_of_accepted known accepted
  have contact : t.execute (d := driver) filled = _ := congrArg t.after executed
  obtain ⟨columns, reply, rows⟩ := accept_of_fresh filled t.connection.next.1 rfl rfl
  exact ⟨_, _, (Session.launch_of_ok bound).trans contact, columns, reply, rows, rfl⟩

/-- Running a compiled statement takes the next reply, if the database knows its binds and the reply
is no failure. -/
theorem run_of_accepted {s : Session driver} (accepted : s.connection.next.1.failure = none)
    (logs : Bool) {compiled : Compiled} (asks : compiled.Asks) :
    ∃ (p : Prepared) (t : Session driver), s.run logs compiled = t.settled p ∧
      p.columns = s.connection.next.1.columns.getD [] ∧
      p.reply = some s.connection.next.1 ∧
      p.rows = s.connection.next.1.columns.map (fun _ => { reply := s.connection.next.1 }) ∧
      t.connection =
        if Prepared.inserts compiled.sql then
          { s.connection.next.2 with lastInsertId := s.connection.next.1.lastRowId.orElse .null }
        else s.connection.next.2 := by
  have unchanged := s.connection_announce logs compiled
  rw [← unchanged] at accepted ⊢
  obtain ⟨p, t, launched, left⟩ := launch_of_accepted accepted asks
  exact ⟨p, t, Session.run_of_launch rfl launched, left⟩

/-- When a value has no text or no name is left for it, it is refused, and with it all values. With
a name for each value only one without a text can be the cause. -/
theorem bindFrom_of_refused {values : List Value} (within : p.binds.length ≤ p.names.length)
    (refused : (¬∀ value ∈ values, value.isBindable = true) ∨
      p.names.length < p.binds.length + values.length) :
    ∃ e q t, s.bindFrom p p.binds.length values = (.error e, q, t) ∧
      t.connection = s.connection ∧
      (p.binds.length + values.length ≤ p.names.length → e = .badValue) := by
  induction values generalizing s p with
  | nil =>
    rcases refused with unbindable | short
    · exact absurd (fun _ member => nomatch member) unbindable
    · exact absurd short (Nat.not_lt.2 within)
  | cons value rest ih =>
    cases found : p.names[p.binds.length]? with
    | none =>
      have unnamed : s.bind p p.binds.length value value.tag =
          (.error (refusal p.binds.length (.noPlaceholder p.binds.length p.sql p.params)), p,
            s.reach s.connection []) := by
        simp only [Session.bind, driver, Prepared.bind, found]
      refine ⟨_, _, _, Session.bindFrom_of_error unnamed rest, rfl, fun enough => ?_⟩
      have none := List.getElem?_eq_none_iff.1 found
      rw [List.length_cons] at enough
      omega
    | some name =>
      cases here : value.isBindable with
      | false =>
        exact ⟨_, _, _, Session.bindFrom_of_error (bind_of_not_bindable s p found here) rest, rfl,
          fun _ => rfl⟩
      | true =>
        obtain ⟨shown, bound⟩ := bind_of_bindable s p found here
        let next := { p with
          binds := p.binds ++ [(name, shown, value.tag)]
          params := p.params ++ [shown] }
        have length : next.binds.length = p.binds.length + 1 := List.length_append
        have room : p.binds.length < p.names.length := (List.getElem?_eq_some_iff.1 found).1
        have refused : (¬∀ value ∈ rest, value.isBindable = true) ∨
            next.names.length < next.binds.length + rest.length := by
          refine refused.imp (fun unbindable all => ?_) (fun short => ?_)
          · exact unbindable (List.forall_mem_cons.2 ⟨here, all⟩)
          · rw [List.length_cons] at short
            simp only [length, next]
            omega
        obtain ⟨e, q, t, later, connection, cause⟩ := ih (s.reach s.connection []) next
          (by simp only [length, next]; omega) refused
        simp only [length] at later
        refine ⟨e, q, t, (Session.bindFrom_of_ok bound rest).trans later, connection,
          fun enough => ?_⟩
        rw [List.length_cons] at enough
        exact cause (by simp only [length, next]; omega)

/-- A compiled statement with names for its values and a value without a text fails and takes no
reply. -/
theorem run_of_not_bindable (s : Session driver) (logs : Bool) {compiled : Compiled}
    (nameable : compiled.Nameable) (unbindable : ¬compiled.Bindable) :
    ∃ t, s.run logs compiled = (.error .badValue, t) ∧ t.connection = s.connection := by
  let started := (s.announce logs compiled).prepare compiled.sql
  obtain ⟨e, q, t, bound, untouched, cause⟩ :=
    bindFrom_of_refused started.2 (Prepared.ofSql compiled.sql) (Nat.zero_le _) (.inl unbindable)
  obtain rfl := cause ((Nat.zero_add _).symm ▸ Nat.le_of_eq nameable.count.symm)
  exact ⟨t, Session.run_of_failed rfl (Session.launch_of_error bound),
    untouched.trans (s.connection_announce logs compiled)⟩

/-- A compiled statement that does not come to ask the database fails and takes no reply. -/
theorem run_of_not_asks (s : Session driver) (logs : Bool) {compiled : Compiled}
    (h : ¬compiled.Asks) :
    ∃ e t, s.run logs compiled = (.error e, t) ∧ t.connection = s.connection := by
  let started := (s.announce logs compiled).prepare compiled.sql
  let p := Prepared.ofSql compiled.sql
  have unchanged : started.2.connection = s.connection := s.connection_announce logs compiled
  have refused : ∃ e q t, started.2.launch started.1 compiled.params = (.error e, q, t) ∧
      t.connection = s.connection := by
    by_cases binds : compiled.Bindable ∧ compiled.params.length ≤ p.names.length
    · obtain ⟨bindable, enough⟩ := binds
      obtain ⟨binds, params, t, bound, named, untouched⟩ :=
        bindFrom_eq started.2 p bindable ((Nat.zero_add _).symm ▸ enough) rfl
      let filled := { p with binds := binds, params := params }
      have names : binds.map Prod.fst = p.names.take compiled.params.length :=
        named.trans (congrArg p.names.take (Nat.zero_add _))
      -- All values are bound, so the database misses the name of one of them.
      have unknown : filled.bindsKnown = false := by
        refine Bool.eq_false_iff.2 fun known => h ⟨bindable, enough, fun name member => ?_⟩
        have among : name ∈ binds.map Prod.fst := names ▸ member
        obtain ⟨bind, listed, rfl⟩ := List.mem_map.1 among
        exact List.contains_iff_mem.1 (List.all_eq_true.1 known bind listed)
      have failed : t.execute (d := driver) filled =
          (.error .unknownBind, filled, t.reach t.connection []) := by
        simp only [Session.execute, driver, Prepared.execute, unknown, Bool.not_false, if_true]
      exact ⟨_, _, _, (Session.launch_of_ok bound).trans failed, untouched.trans unchanged⟩
    · have refused : (¬∀ value ∈ compiled.params, value.isBindable = true) ∨
          p.names.length < p.binds.length + compiled.params.length := by
        refine (Classical.not_and_iff_not_or_not.1 binds).imp_right fun short => ?_
        exact (Nat.zero_add _).symm ▸ Nat.lt_of_not_le short
      obtain ⟨e, q, t, bound, untouched, -⟩ :=
        bindFrom_of_refused started.2 p (Nat.zero_le _) refused
      exact ⟨e, q, t, Session.launch_of_error bound, untouched.trans unchanged⟩
  obtain ⟨e, q, t, launched, connection⟩ := refused
  refine ⟨e, _, Session.run_of_failed rfl launched, ?_⟩
  split
  · exact (connection_close q _).trans connection
  · exact connection

end Named

end SqlBuilder
