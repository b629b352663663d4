import SqlBuilder.Proofs.CompleteRows
import SqlBuilder.Proofs.Conversations
import SqlBuilder.Proofs.OfferedNames

/-!
# Values bound in order

A prepared statement takes the values of its placeholders one after another. What becomes of a value
depends on the text and on the values that were accepted before it, and on nothing else that came
before: a value that is refused leaves no trace. So an execution hands over the accepted values, in
the order in which they were accepted. The positional driver hands them over in converted form; the
driver with named binds gives each the name of its placeholder, and hands over nothing when the
database does not find such a name in the text.
-/

set_option autoImplicit false

namespace SqlBuilder

open Sql (toNamedBinds bindNames placeholderPositions)

/-- There are as many values recorded as accepted. -/
theorem length_of_mapM {α β : Type} {f : α → Except Error β} {given : List α} {params : List β}
    (h : given.mapM f = .ok params) : params.length = given.length := by
  induction given generalizing params with
  | nil =>
    rw [← Except.ok.inj h]
    rfl
  | cons a rest ih =>
    rw [List.mapM_cons] at h
    cases first : f a with
    | error e =>
      rw [first] at h
      cases h
    | ok b =>
      cases later : rest.mapM f with
      | error e =>
        rw [first, later] at h
        cases h
      | ok bs =>
        rw [first, later] at h
        obtain rfl : b :: bs = params := Except.ok.inj h
        rw [List.length_cons, List.length_cons, ih later]

/-- One more value stands beside the next name. -/
theorem zip_concat {α β : Type} {names : List α} {values : List β} {name : α}
    (next : names[values.length]? = some name) (value : β) :
    names.zip (values ++ [value]) = names.zip values ++ [(name, value)] := by
  induction values generalizing names with
  | nil =>
    cases names with
    | nil => cases next
    | cons first rest =>
      obtain rfl : first = name := Option.some.inj next
      simp
  | cons v vs ih =>
    cases names with
    | nil => cases next
    | cons first rest =>
      have later : rest[vs.length]? = some name := next
      rw [List.cons_append, List.zip_cons_cons, List.zip_cons_cons, ih later, List.cons_append]

namespace Adapter

/-- Whether a text awaits a value at a position: any text does when values are bound by position. -/
def Awaits : Adapter → String → Nat → Prop
  | positional, _, _ => True
  | named, sql, position => position < (placeholderPositions sql).length

/-- The error for a value out of place, with the text and the values accepted so far; it can only be
worded when the position can be written out. -/
def misplaced : Adapter → Int → String → List Value → Error
  | positional => .boundOutOfOrder
  | named => .noPlaceholder

/-- Both adapters refuse a value that is out of place with an error in this library's terms. -/
theorem isDriverError_misplaced (a : Adapter) (position : Int) (sql : String)
    (params : List Value) : (a.misplaced position sql params).isDriverError = true := by
  cases a <;> rfl

/-- A prepared statement takes values in order, after those that it accepted. -/
structure InOrder (a : Adapter) (sql : String) (given : List (Value × Tag)) (params : List Value)
    (p : a.driver.Prepared) : Prop where
  /-- The accepted values are recorded, each in the form that its tag asks for. -/
  recorded : given.mapM a.record = .ok params
  /-- A value is accepted exactly at the next position, if one is awaited there and this one can be
  recorded. -/
  accepts : ∀ c (position : Int) value tag,
    (a.driver.bind p c position value tag).outcome = .ok () ↔
      position = given.length ∧ a.Awaits sql given.length ∧ ∃ v, a.record (value, tag) = .ok v
  /-- A value at another position is refused, and nothing changes. -/
  misplaced : ∀ c (position : Int) value tag,
    ¬(position = given.length ∧ a.Awaits sql given.length) →
      a.driver.bind p c position value tag =
        ⟨.error (refusal position (a.misplaced position sql params)), p, c, []⟩
  /-- A value that cannot be recorded is refused, and nothing changes. -/
  unrecorded : ∀ c value tag e, a.Awaits sql given.length → a.record (value, tag) = .error e →
    a.driver.bind p c given.length value tag = ⟨.error e, p, c, []⟩
  /-- Binding does not reach the database. -/
  apart : ∀ c (position : Int) value tag,
    (a.driver.bind p c position value tag).connection = c ∧
      (a.driver.bind p c position value tag).events = []

end Adapter

/-! ## Values by position -/

namespace Positional

variable {sql : String} {given : List (Value × Tag)} {p : Prepared}

/-- The adapter that binds by position accepts exactly the next position, and what can be stored. -/
theorem inOrder (h : driver.Prepares sql given p) :
    Adapter.positional.InOrder sql given p.params p := by
  obtain ⟨rfl, recorded⟩ := records.of_prepares h
  have length : given.length = p.params.length := (length_of_mapM recorded).symm
  refine ⟨recorded, fun c position value tag => ?_, fun c position value tag out => ?_,
    fun c value tag e _ failed => ?_, fun c position value tag => ?_⟩
  · simp only [Adapter.driver, driver, Prepared.bind, Adapter.record, Adapter.Awaits, length]
    by_cases next : position = p.params.length
    · cases Value.convert tag value <;> simp [next]
    · simp [next]
  · have out : position ≠ p.params.length := by simpa [Adapter.Awaits, length] using out
    simp [Adapter.driver, driver, Prepared.bind, out, Adapter.misplaced]
  · have failed : Value.convert tag value = .error e := failed
    simp [Adapter.driver, driver, Prepared.bind, length, failed]
  · simp only [Adapter.driver, driver, Prepared.bind]
    split
    · exact ⟨rfl, rfl⟩
    · split <;> exact ⟨rfl, rfl⟩

/-- An execution hands over the text with the recorded values. -/
theorem events_execute (h : driver.Prepares sql given p) (c : Connection) :
    (p.execute c).events = [.executedPositional sql p.params] := by
  obtain ⟨rfl, -⟩ := records.of_prepares h
  unfold Prepared.execute
  dsimp only
  split <;> rfl

end Positional

/-! ## Values by name -/

namespace Named

/-- The accepted values stand beside the names of the first placeholders, in order. -/
structure Prepared.Filled (sql : String) (given : List (Value × Tag)) (p : Prepared) : Prop where
  /-- The text is kept. -/
  text : p.sql = sql
  /-- The text is rewritten. -/
  namedSql : p.namedSql = (toNamedBinds sql).1
  /-- The names are those of the rewriting. -/
  names : p.names = (toNamedBinds sql).2
  /-- The accepted values are recorded, each in the form that its tag asks for. -/
  recorded : given.mapM (fun bound => Prepared.textual bound.2 bound.1) = .ok p.params
  /-- No value is without a placeholder. -/
  within : given.length ≤ (toNamedBinds sql).2.length
  /-- Each recorded value has the name of its placeholder and its tag. -/
  binds : p.binds = (toNamedBinds sql).2.zip (p.params.zip (given.map Prod.snd))

namespace Prepared.Filled

variable {sql : String} {given : List (Value × Tag)} {p : Prepared}

/-- There are as many values as were accepted. -/
theorem length_params (h : Filled sql given p) : p.params.length = given.length :=
  length_of_mapM h.recorded

/-- There are as many pairs of a value and a tag as there are values. -/
theorem length_tagged (h : Filled sql given p) :
    (p.params.zip (given.map Prod.snd)).length = given.length := by
  rw [List.length_zip, List.length_map, h.length_params, Nat.min_self]

/-- There are as many binds as values that were accepted. -/
theorem length_binds (h : Filled sql given p) : p.binds.length = given.length := by
  rw [h.binds, List.length_zip, h.length_tagged, Nat.min_eq_right h.within]

/-- The names of the binds are those of the first placeholders. -/
theorem names_binds (h : Filled sql given p) :
    p.binds.map Prod.fst = (toNamedBinds sql).2.take given.length := by
  have few : min (toNamedBinds sql).2.length (p.params.zip (given.map Prod.snd)).length =
      given.length := by rw [h.length_tagged, Nat.min_eq_right h.within]
  have whole : (p.params.zip (given.map Prod.snd)).take given.length =
      p.params.zip (given.map Prod.snd) := List.take_of_length_le (Nat.le_of_eq h.length_tagged)
  have enough : ((toNamedBinds sql).2.take given.length).length ≤
      (p.params.zip (given.map Prod.snd)).length := by
    rw [List.length_take, h.length_tagged]
    exact Nat.min_le_left _ _
  rw [h.binds, List.zip_eq_zip_take_min, few, whole, List.map_fst_zip enough]

/-- At the next position a value is taken if it has the form that its tag asks for. -/
theorem bind_awaited (h : Filled sql given p) (c : Connection) (value : Value) (tag : Tag)
    (awaited : given.length < (placeholderPositions sql).length) :
    p.bind c given.length value tag =
      match textual tag value with
      | .error e => ⟨.error e, p, c, []⟩
      | .ok shown =>
        ⟨.ok (), { p with
            binds := (toNamedBinds sql).2.zip
              ((p.params ++ [shown]).zip ((given ++ [(value, tag)]).map Prod.snd))
            params := p.params ++ [shown] }, c, []⟩ := by
  have length := h.length_binds
  have within : given.length < (toNamedBinds sql).2.length := by
    rw [Sql.length_toNamedBinds]
    exact awaited
  have name : (toNamedBinds sql).2[given.length]? = some (toNamedBinds sql).2[given.length] :=
    List.getElem?_eq_getElem within
  have awaits : p.names[p.binds.length]? = some (toNamedBinds sql).2[given.length] := by
    rw [length, h.names, name]
  have tagged (shown : Value) :
      (p.params ++ [shown]).zip ((given ++ [(value, tag)]).map Prod.snd) =
        p.params.zip (given.map Prod.snd) ++ [(shown, tag)] := by
    rw [List.map_append, List.zip_append (by rw [h.length_params, List.length_map])]
    rfl
  unfold Prepared.bind
  rw [awaits]
  dsimp only
  rw [length, if_pos rfl]
  cases textual tag value with
  | error e => rfl
  | ok shown =>
    dsimp only
    rw [tagged, zip_concat (by rw [h.length_tagged, name]), ← h.binds]

/-- The next value is accepted if there is a placeholder for it, and stands beside its name. -/
theorem bind_next (h : Filled sql given p) (c : Connection) {value shown : Value} {tag : Tag}
    (awaited : given.length < (placeholderPositions sql).length)
    (written : textual tag value = .ok shown) :
    ∃ q, p.bind c given.length value tag = ⟨.ok (), q, c, []⟩ ∧
      Filled sql (given ++ [(value, tag)]) q := by
  have bound := h.bind_awaited c value tag awaited
  rw [written] at bound
  refine ⟨_, bound, h.text, h.namedSql, h.names, ?_, ?_, rfl⟩
  · rw [List.mapM_append, h.recorded]
    simp [written]
    rfl
  · rw [List.length_append, List.length_singleton, Sql.length_toNamedBinds]
    omega

/-- The next value is refused, and nothing changes, if it cannot be written out. -/
theorem bind_unwritten (h : Filled sql given p) (c : Connection) {value : Value} {tag : Tag}
    {e : Error} (awaited : given.length < (placeholderPositions sql).length)
    (unwritten : textual tag value = .error e) :
    p.bind c given.length value tag = ⟨.error e, p, c, []⟩ := by
  rw [h.bind_awaited c value tag awaited, unwritten]

/-- A value at another position, or without a placeholder, is refused. -/
theorem bind_out (h : Filled sql given p) (c : Connection) {position : Int} (value : Value)
    (tag : Tag)
    (out : ¬(position = given.length ∧ given.length < (placeholderPositions sql).length)) :
    p.bind c position value tag =
      ⟨.error (refusal position (.noPlaceholder position p.sql p.params)), p, c, []⟩ := by
  have length := h.length_binds
  unfold Prepared.bind
  rw [length, h.names]
  split
  · rename_i name found
    have within := (List.getElem?_eq_some_iff.1 found).1
    rw [Sql.length_toNamedBinds] at within
    exact if_neg fun next => out ⟨next, within⟩
  · rfl

/-- A value is accepted at its place if it can be written out, or else refused. -/
theorem bind_cases (h : Filled sql given p) (c : Connection) (position : Int) (value : Value)
    (tag : Tag) :
    (∃ shown q, (position = given.length ∧ given.length < (placeholderPositions sql).length) ∧
        textual tag value = .ok shown ∧ p.bind c position value tag = ⟨.ok (), q, c, []⟩ ∧
          Filled sql (given ++ [(value, tag)]) q) ∨
      (¬((position = given.length ∧ given.length < (placeholderPositions sql).length) ∧
          ∃ shown, textual tag value = .ok shown) ∧
        ∃ e, p.bind c position value tag = ⟨.error e, p, c, []⟩) := by
  by_cases next : position = given.length ∧ given.length < (placeholderPositions sql).length
  · cases written : textual tag value with
    | error e =>
      refine .inr ⟨fun ⟨_, _, found⟩ => (by cases found), e, ?_⟩
      rw [next.1]
      exact h.bind_unwritten c next.2 written
    | ok shown =>
      obtain ⟨q, bound, filled⟩ := h.bind_next c next.2 written
      refine .inl ⟨shown, q, next, rfl, ?_, filled⟩
      rw [next.1]
      exact bound
  · exact .inr ⟨fun accepted => next accepted.1, _, h.bind_out c value tag next⟩

/-- The parameters of an execution, if the database finds all names: the binds, in order, and the
placeholders without a value. -/
theorem parameters (h : Filled sql given p) (known : p.bindsKnown = true) :
    ∃ others, p.parameters =
        p.binds.map (fun bind => (bind.1, some bind.2)) ++ others.map (fun name => (name, none)) ∧
      (∀ name ∈ others, name ∉ p.binds.map Prod.fst) ∧
      ((placeholderPositions sql).length ≤ given.length → others = []) := by
  have names := h.names_binds
  have found : ∀ name ∈ (toNamedBinds sql).2.take given.length,
      name ∈ bindNames (toNamedBinds sql).1 := by
    intro name member
    rw [← names] at member
    obtain ⟨bind, bound, rfl⟩ := List.mem_map.1 member
    rw [← h.namedSql]
    exact List.contains_iff_mem.1 (List.all_eq_true.1 known bind bound)
  obtain ⟨others, finds, apart, none⟩ := Sql.bindNames_toNamedBinds sql found
  rw [← names] at finds apart
  have different : (p.binds.map Prod.fst).Nodup := by
    rw [names, Sql.toNamedBinds_eq, Sql.take_bindNamesFrom]
    exact Sql.nodup_bindNamesFrom 0 _
  -- Each name is bound once, so looking up the bound names gives the binds.
  have bound : (p.binds.map Prod.fst).map (fun name => (name, p.binds.lookup name)) =
      p.binds.map fun bind => (bind.1, some bind.2) := by
    rw [List.map_map]
    apply List.map_congr_left
    intro bind bound
    rw [Function.comp, Row.lookup_of_mem different bound]
  have unbound : others.map (fun name => (name, p.binds.lookup name)) =
      others.map fun name => (name, Option.none) := by
    apply List.map_congr_left
    intro name other
    have unbound : p.binds.lookup name = Option.none := by
      rw [List.lookup_eq_none_iff]
      intro bind bound
      have different : name ≠ bind.1 :=
        fun same => apart name other (same ▸ List.mem_map_of_mem bound)
      simpa using different
    rw [unbound]
  refine ⟨others, ?_, apart, none⟩
  rw [Prepared.parameters, h.namedSql, finds, List.map_append, bound, unbound]

end Prepared.Filled

/-- Whatever happened to a prepared statement, the values that it accepted are where they belong. -/
theorem filled {sql : String} {given : List (Value × Tag)} {p : driver.Prepared}
    (h : driver.Prepares sql given p) : Prepared.Filled sql given p := by
  induction h with
  | prepared c => exact ⟨rfl, rfl, rfl, rfl, Nat.zero_le _, List.zip_nil_right.symm⟩
  | @accepted given p h c position value tag ok ih =>
    have ok : (Prepared.bind p c position value tag).outcome = .ok () := ok
    rcases ih.bind_cases c position value tag with ⟨shown, q, -, -, bound, filled⟩ | ⟨-, e, refused⟩
    · show Prepared.Filled sql _ (Prepared.bind p c position value tag).prepared
      rw [bound]
      exact filled
    · rw [refused] at ok
      cases ok
  | @refused given p h c position value tag e failed ih =>
    rw [records.refuse p c position value tag e failed]
    exact ih
  | @executed given p h c ih =>
    simp only [driver, Prepared.execute]
    split
    · exact ih
    · split
      · exact ih
      · simp only [Prepared.accept]
        split <;> exact ⟨ih.text, ih.namedSql, ih.names, ih.recorded, ih.within, ih.binds⟩
  | @fetched given p h c ih =>
    simp only [driver, Prepared.fetch]
    split
    · exact ih
    · exact ⟨ih.text, ih.namedSql, ih.names, ih.recorded, ih.within, ih.binds⟩
  | @closed given p h c ih =>
    simp only [driver, Prepared.close]
    split
    · exact ih
    · exact ⟨ih.text, ih.namedSql, ih.names, ih.recorded, ih.within, ih.binds⟩

/-- The adapter that binds by name accepts exactly the next position, if a placeholder is left for
it, and what can be converted. -/
theorem inOrder {sql : String} {given : List (Value × Tag)} {p : driver.Prepared}
    (h : driver.Prepares sql given p) : Adapter.named.InOrder sql given p.params p := by
  have filled : p.Filled sql given := filled h
  refine ⟨filled.recorded, fun c position value tag => ?_, fun c position value tag out => ?_,
    fun c value tag e awaited unwritten => filled.bind_unwritten c awaited unwritten,
    fun c position value tag => ?_⟩
  · show (p.bind c position value tag).outcome = .ok () ↔ _
    rcases filled.bind_cases c position value tag with
      ⟨shown, q, next, written, bound, -⟩ | ⟨out, e, refused⟩
    · rw [bound]
      exact ⟨fun _ => ⟨next.1, next.2, shown, written⟩, fun _ => rfl⟩
    · rw [refused]
      refine ⟨nofun, ?_⟩
      rintro ⟨position, awaited, recorded⟩
      exact absurd ⟨⟨position, awaited⟩, recorded⟩ out
  · rw [← filled.text]
    exact filled.bind_out c value tag out
  · show (p.bind c position value tag).connection = c ∧ (p.bind c position value tag).events = []
    rcases filled.bind_cases c position value tag with ⟨-, q, -, -, bound, -⟩ | ⟨-, e, refused⟩
    · rw [bound]
      exact ⟨rfl, rfl⟩
    · rw [refused]
      exact ⟨rfl, rfl⟩

/-- An execution hands over the bind parameters, if the database finds all names that are bound. -/
theorem Prepared.events_execute {p : Prepared} (known : p.bindsKnown = true) (c : Connection) :
    (p.execute c).events = [.executedNamed p.namedSql p.parameters] := by
  unfold execute
  rw [if_neg (by simp [known])]
  dsimp only
  split <;> rfl

/-- A statement with a bind for which its text has no name is refused, and nothing is executed. -/
theorem Prepared.execute_of_unknown {p : Prepared} (unknown : p.bindsKnown = false)
    (c : Connection) : p.execute c = ⟨.error .unknownBind, p, c, []⟩ := by
  unfold execute
  rw [unknown]
  rfl

/-- What an execution of a prepared statement for a text hands over when some values were accepted:
the binds, and nothing else that was ever bound. -/
structure HandsOver (sql : String) (given : List (Value × Tag)) (params : List Value)
    (p : Prepared) : Prop where
  /-- The values are the recorded ones. -/
  recorded : p.params = params
  /-- The binds are these in order, each with the name of its placeholder and its tag. -/
  binds : p.binds = (toNamedBinds sql).2.zip (params.zip (given.map Prod.snd))
  /-- There are as many binds as values, and as many as were accepted. -/
  lengths : p.binds.length = params.length ∧ p.binds.length = given.length
  /-- If the database finds all these names, it is given the binds, and beside them the names of
  placeholders without a value: none if each has one. -/
  known : p.bindsKnown = true → ∃ others, (∀ name ∈ others, name ∉ p.binds.map Prod.fst) ∧
    ((placeholderPositions sql).length ≤ given.length → others = []) ∧
    ∀ c, (p.execute c).events = [.executedNamed (toNamedBinds sql).1
      (p.binds.map (fun bind => (bind.1, some bind.2)) ++ others.map fun name => (name, none))]
  /-- If it does not, nothing reaches it. -/
  unknown : p.bindsKnown = false → ∀ c, p.execute c = ⟨.error .unknownBind, p, c, []⟩

/-- The adapter that binds by name hands over the accepted values under the names of their
placeholders. -/
theorem handsOver {sql : String} {given : List (Value × Tag)} {p : Prepared}
    (h : driver.Prepares sql given p) : HandsOver sql given p.params p := by
  have filled : p.Filled sql given := filled h
  refine ⟨rfl, filled.binds, ⟨?_, filled.length_binds⟩, fun known => ?_,
    Prepared.execute_of_unknown⟩
  · rw [filled.length_binds, filled.length_params]
  · obtain ⟨others, parameters, apart, none⟩ := filled.parameters known
    refine ⟨others, apart, none, fun c => ?_⟩
    rw [Prepared.events_execute known, parameters, filled.namedSql]

end Named

/-! ## Both adapters -/

namespace Adapter

/-- What an execution hands over: the recorded values, by position or by name. -/
def HandsOver : (a : Adapter) → String → List (Value × Tag) → List Value → a.driver.Prepared → Prop
  | positional, sql, _, params, p =>
    ∀ c, (Positional.Prepared.execute p c).events = [.executedPositional sql params]
  | named, sql, given, params, p => Named.HandsOver sql given params p

end Adapter

/-- After any calls on a prepared statement, on whatever connections: a value is accepted only as
the next in order, and if it has the form that its tag asks for; what is refused changes nothing. A
value is refused for its position in this library's terms, when the position can be written out at
all. An execution hands over exactly the values that were accepted, in the order in which they were;
with named binds it hands over nothing if the database does not find one of their names. -/
theorem binding_in_order (a : Adapter) (sql : String) (c : a.driver.Connection)
    (calls : List (a.driver.Connection × HandleCall)) :
    let done := a.driver.converse (a.driver.prepare sql c).1 calls
    ∃ params, a.InOrder sql (acceptedIn done.1) params done.2 ∧
      (∀ position, (a.misplaced position sql params).isDriverError = true) ∧
      a.HandsOver sql (acceptedIn done.1) params done.2 := by
  intro done
  have prepares : a.driver.Prepares sql (acceptedIn done.1) done.2 :=
    (Driver.Prepares.prepared c).converse calls
  cases a with
  | positional =>
    exact ⟨Positional.Prepared.params done.2, Positional.inOrder prepares,
      fun position => Adapter.isDriverError_misplaced _ position sql _,
      Positional.events_execute prepares⟩
  | named =>
    exact ⟨Named.Prepared.params done.2, Named.inOrder prepares,
      fun position => Adapter.isDriverError_misplaced _ position sql _, Named.handsOver prepares⟩

/-- Values that come too early or twice among two in order, and an execution in between. -/
def strayBinds : List (Connection × HandleCall) :=
  [.bind 1 (.int 5) .integer, .bind 0 (.int 7) .text, .bind 0 (.int 8) .text, .execute,
    .bind 1 (.bool true) .boolean].map fun call => ({ script := [] }, call)

/-- Only the two in order are handed over, and there is no place for a third. -/
theorem binding_in_order_strayBinds :
    let c : Connection := { script := [] }
    let p := (Named.driver.converse (Named.driver.prepare "VALUES (?, ?)" c).1 strayBinds).2
    Named.driver.bind p c 2 (.int 9) .integer =
        ⟨.error (.noPlaceholder 2 "VALUES (?, ?)" [.text "7", .bool true]), p, c, []⟩ ∧
      (Named.driver.execute p c).events = [.executedNamed "VALUES (:p0, :p1)"
        [("p0", some (.text "7", .text)), ("p1", some (.bool true, .boolean))]] := by
  obtain ⟨params, inOrder, -, handsOver⟩ :=
    binding_in_order .named "VALUES (?, ?)" { script := [] } strayBinds
  have named : toNamedBinds "VALUES (?, ?)" = ("VALUES (:p0, :p1)", ["p0", "p1"]) := by
    decide +kernel
  have places : (placeholderPositions "VALUES (?, ?)").length = 2 := by decide +kernel
  have prepared : (Adapter.named.driver.prepare "VALUES (?, ?)" { script := [] }).1 =
      ({ sql := "VALUES (?, ?)", namedSql := "VALUES (:p0, :p1)", names := ["p0", "p1"] } :
        Named.Prepared) := by
    simp [Adapter.driver, Named.driver, Named.Prepared.ofSql, named]
  rw [prepared] at inOrder handsOver
  have params : [.text "7", .bool true] = params := handsOver.recorded
  intro c p
  have same : p = (Named.driver.converse _ strayBinds).2 :=
    congrArg (fun p => (Named.driver.converse p strayBinds).2) prepared
  rw [same, params]
  constructor
  · refine inOrder.misplaced c 2 (.int 9) .integer fun next => ?_
    have awaited : 2 < (placeholderPositions "VALUES (?, ?)").length := next.2
    omega
  · obtain ⟨others, -, none, events⟩ := handsOver.known (by decide +kernel)
    have none : others = [] := none (by rw [places]; exact Nat.le_refl 2)
    rw [none, named] at events
    exact events c

/-- The smallest integer that has too many digits to be written out. -/
def unwrittenNumber : Int :=
  Int.pow 10 4300

/-- An accepted value is not handed over when the database does not find its name: here the
placeholder stands at the end of a word. The next value in order is refused when it is to be bound
as text and cannot be written out. And a value at a wrong position is not refused in this library's
terms when the position cannot be written out. -/
theorem accepted_bind_not_found :
    let c : Connection := { script := [] }
    let glued := Named.driver.converse (Named.driver.prepare "SELECT a?" c).1
      [(c, .bind 0 (.int 1) .integer)]
    let single := (Named.driver.prepare "SELECT ?" c).1
    (acceptedIn glued.1 = [(.int 1, .integer)] ∧
        Named.driver.execute glued.2 c = ⟨.error .unknownBind, glued.2, c, []⟩) ∧
      (Adapter.named.Awaits "SELECT ?" 0 ∧
        Named.driver.bind single c 0 (.int unwrittenNumber) .text =
          ⟨.error .badValue, single, c, []⟩) ∧
      (Named.driver.bind single c unwrittenNumber .null .null = ⟨.error .badValue, single, c, []⟩ ∧
        Error.isDriverError .badValue = false) := by
  have gluedNames : toNamedBinds "SELECT a?" = ("SELECT a:p0", ["p0"]) := by decide +kernel
  have singleNames : toNamedBinds "SELECT ?" = ("SELECT :p0", ["p0"]) := by decide +kernel
  have offered : bindNames "SELECT a:p0" = [] := by decide +kernel
  have awaited : 0 < (placeholderPositions "SELECT ?").length := by decide +kernel
  have misplaced : unwrittenNumber ≠ 0 := by decide +kernel
  have unwritten : Value.isWritableInt unwrittenNumber = false := by decide +kernel
  intro c glued single
  let bound : Named.Prepared :=
    { sql := "SELECT a?", namedSql := "SELECT a:p0", names := ["p0"],
      binds := [("p0", .int 1, .integer)], params := [.int 1] }
  have unknown : bound.bindsKnown = false := by
    simp [bound, Named.Prepared.bindsKnown, offered]
  have accepted : glued = ([⟨.bind 0 (.int 1) .integer, .ok .nothing, []⟩], bound) := by
    have prepared : (Named.driver.prepare "SELECT a?" c).1 =
        ({ sql := "SELECT a?", namedSql := "SELECT a:p0", names := ["p0"] } : Named.Prepared) := by
      simp [Named.driver, Named.Prepared.ofSql, gluedNames]
    exact congrArg (fun p => Named.driver.converse p [(c, .bind 0 (.int 1) .integer)]) prepared
  have prepared : single =
      ({ sql := "SELECT ?", namedSql := "SELECT :p0", names := ["p0"] } : Named.Prepared) := by
    simp [single, Named.driver, Named.Prepared.ofSql, singleNames]
  rw [accepted, prepared]
  refine ⟨⟨rfl, Named.Prepared.execute_of_unknown unknown c⟩, ⟨awaited, ?_⟩, ?_, rfl⟩
  · simp [Named.driver, Named.Prepared.bind, Named.Prepared.textual, Value.written,
      Value.isWritable, unwritten, Except.map]
  · simp [Named.driver, Named.Prepared.bind, refusal, unwritten, misplaced]

end SqlBuilder
