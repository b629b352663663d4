import SqlBuilder.Driver.Recording
import SqlBuilder.Proofs.FailedSteps
import SqlBuilder.Proofs.Locality
import SqlBuilder.Proofs.MutationLayout

/-!
# The values of mutations

A mutation writes to a table that binds nothing, so its values are those of the data and those of
WHERE and no others, however much the statement holds for its other clauses. The scan finds one
placeholder for each of them: in an INSERT the placeholder of a column is at the column's own place
in the list, in an UPDATE it stands beside the column, and the placeholders of WHERE come last. Of
all clauses of a state only the source and WHERE are read.
-/

set_option autoImplicit false

namespace SqlBuilder

open Layout (ofText listed Aligned)
open Sql (Compiled Neutral neutralTexts placeholderPositions placeholders)

/-! ## The places of listed values -/

namespace Layout

/-- Listed holes are three characters apart. -/
theorem offsetsFrom_listed (offset : Nat) (vs : List Value) :
    offsetsFrom offset (listed vs) = (List.range vs.length).map fun i => offset + 3 * i := by
  induction vs generalizing offset with
  | nil => rfl
  | cons v rest ih =>
    cases rest with
    | nil => rfl
    | cons w more =>
      have split : listed (v :: w :: more) = .hole v :: (ofText ", " ++ listed (w :: more)) := rfl
      have later : offset + 1 + (ofText ", ").length = offset + 3 := rfl
      have range : List.range (v :: w :: more).length =
          0 :: (List.range (w :: more).length).map Nat.succ := List.range_succ_eq_map
      rw [split, offsetsFrom, offsetsFrom_append, offsetsFrom_ofText, List.nil_append, ih, later,
        range, List.map_cons, List.map_map]
      congr 1
      apply List.map_congr_left
      intro i _
      show offset + 3 + 3 * i = offset + 3 * (i + 1)
      omega

/-- Texts in a row have their places in a row. -/
theorem ofText_append (s t : String) : ofText (s ++ t) = ofText s ++ ofText t := by
  rw [ofText, String.toList_append, List.map_append, ofText, ofText]

/-- A text has a place for every character. -/
theorem length_ofText (s : String) : (ofText s).length = s.length := by
  rw [ofText, List.length_map, String.length_toList]

/-- Compiled SQL shows its values: each placeholder that the scan finds is a hole of a layout, and
the values are those in the holes, in the same order. -/
structure Shows (l : Layout) (compiled : Compiled) : Prop where
  /-- The text. -/
  sql : compiled.sql = l.text
  /-- The values. -/
  params : compiled.params = l.values
  /-- The placeholders. -/
  positions : placeholderPositions compiled.sql = l.offsets
  /-- There are as many placeholders as values. -/
  count : compiled.placeholderCount = compiled.params.length

/-- An aligned layout shows the values of what it compiles to. -/
theorem Aligned.shows {l : Layout} (h : Aligned l) : l.Shows l.compiled := by
  have positions := h.placeholderPositions
  refine ⟨rfl, rfl, positions, ?_⟩
  show (Sql.placeholderPositions l.text).length = l.values.length
  rw [positions]
  exact length_offsetsFrom 0 l

end Layout

namespace State

/-! ## What mutations compile to -/

/-- A state writes to a table that binds nothing. -/
structure Targets (s : State) (table : String) : Prop where
  /-- The source is a table. -/
  source : ∃ known, s.source = some known ∧ known.derived = false ∧ known.sql.display = table
  /-- The source binds nothing. -/
  binds : s.sourceBindings = []

/-- The text of an INSERT before its placeholders. -/
def insertOpening (table : String) (columns : List String) : String :=
  "INSERT INTO " ++ table ++ " (" ++ commaSeparated columns ++ ") VALUES ("

/-- An INSERT binds the values of the data, and the placeholder at the place of a column in the list
of columns has the value of that column. -/
structure InsertShows (s : State) (pairs : List (Value × Value)) (compiled : Compiled)
    (table : String) (columns : List String) : Prop where
  /-- The table. -/
  targets : s.Targets table
  /-- The columns are the keys of the data. -/
  keys : pairs.map Prod.fst = columns.map .text
  /-- The text. -/
  sql : compiled.sql = insertOpening table columns ++ placeholders columns.length ++ ")"
  /-- The values are those of the data. -/
  params : compiled.params = pairs.map Prod.snd
  /-- The placeholders, one for each column. -/
  positions : placeholderPositions compiled.sql =
    (List.range columns.length).map fun i => (insertOpening table columns).length + 3 * i

/-- An UPDATE binds the values of the data beside their columns, and then those of WHERE. -/
structure UpdateShows (s : State) (pairs : List (Value × Value)) (compiled : Compiled)
    (table : String) (rows : Layout) : Prop where
  /-- The table. -/
  targets : s.Targets table
  /-- WHERE is written with its values. -/
  where_ : Laid neutralTexts (.clause s.rowConditions) rows ∧ s.WritesRows rows
  /-- The text with the placeholders. -/
  shows : (updateLayout table pairs rows).Shows compiled
  /-- The values. -/
  params : compiled.params = pairs.map Prod.snd ++ s.clauseParams .rows

/-- A DELETE binds the values of WHERE. -/
structure DeleteShows (s : State) (compiled : Compiled) (table : String) (rows : Layout) :
    Prop where
  /-- The table. -/
  targets : s.Targets table
  /-- WHERE is written with its values. -/
  where_ : Laid neutralTexts (.clause s.rowConditions) rows ∧ s.WritesRows rows
  /-- The text with the placeholders. -/
  shows : (deleteLayout table rows).Shows compiled
  /-- The values. -/
  params : compiled.params = s.clauseParams .rows

variable {s : State} {data : Value} {compiled : Compiled}

/-- The table of a mutation of a state that is sound for mutations binds nothing: what binds is a
derived table, which a mutation refuses. -/
theorem WriteSound.targets {T : TextClass} (sound : s.WriteSound T) {mutation : Mutation}
    {source : Source} (h : s.requireTable mutation = .ok source) :
    s.Targets source.sql.display := by
  obtain ⟨reads, plain⟩ := of_requireTable h
  refine ⟨⟨source, reads, plain, rfl⟩, ?_⟩
  rw [sourceBindings, reads]
  obtain ⟨l, laid⟩ := sound.source source reads
  cases laid with
  | table binds holds => exact binds
  | derived => cases plain

/-- The layout of an INSERT has its holes at the end, between brackets. -/
theorem insertLayout_eq (table : String) (columns : List String) (vs : List Value) :
    insertLayout table (commaSeparated columns) vs =
      ofText (insertOpening table columns) ++ (listed vs ++ ofText ")") := by
  simp only [insertLayout, insertOpening, Layout.ofText_append, List.append_assoc]
  rfl

/-- The layout of an INSERT has its text, with a placeholder for each value. -/
theorem text_insertLayout (table : String) (columns : List String) (vs : List Value) :
    (insertLayout table (commaSeparated columns) vs).text =
      insertOpening table columns ++ placeholders vs.length ++ ")" := by
  simp [insertLayout_eq, Layout.text_listed, String.append_assoc]

/-- The layout of an INSERT has the values of the data. -/
theorem values_insertLayout (table : String) (columns : List String) (vs : List Value) :
    (insertLayout table (commaSeparated columns) vs).values = vs := by
  simp [insertLayout_eq, Layout.values_listed]

/-- The holes of an INSERT follow its opening, three characters apart. -/
theorem offsets_insertLayout (table : String) (columns : List String) (vs : List Value) :
    (insertLayout table (commaSeparated columns) vs).offsets =
      (List.range vs.length).map fun i => (insertOpening table columns).length + 3 * i := by
  simp [insertLayout_eq, Layout.offsets, Layout.offsetsFrom_append, Layout.offsetsFrom_listed,
    Layout.length_ofText]

/-- An INSERT of a state that is sound for mutations binds the values of the data, in the order of
the columns. -/
theorem WriteSound.insertShows (sound : s.WriteSound neutralTexts)
    (keys : neutralTexts.KeysHold data) (h : s.compileInsert data = .ok compiled) :
    ∃ pairs table columns, data.pairs? = some pairs ∧
      s.InsertShows pairs compiled table columns := by
  obtain ⟨source, pairs, columns, table, found, texts, rfl⟩ := of_compileInsert h
  have count : (pairs.map Prod.snd).length = columns.length := by
    rw [List.length_map, ← List.length_map (f := Prod.fst), texts, List.length_map]
  have laid : LaidMutation neutralTexts s data .insert
      (insertLayout source.sql.display (commaSeparated columns) (pairs.map Prod.snd)) := by
    apply LaidMutation.insert found (sound.holds_of_requireTable table)
    apply TextClass.holds_commaSeparated
    intro t ht
    have key : Value.text t ∈ pairs.map Prod.fst := texts ▸ List.mem_map_of_mem ht
    exact keys pairs found (.text t) key
  refine ⟨pairs, source.sql.display, columns, found, sound.targets table, texts, ?_, ?_, ?_⟩
  · show Layout.text _ = _
    rw [text_insertLayout, count]
  · exact values_insertLayout _ _ _
  · rw [laid.aligned.shows.positions, offsets_insertLayout, count]

/-- An UPDATE of a state that is sound for mutations binds the values of the data and those of
WHERE. -/
theorem WriteSound.updateShows (sound : s.WriteSound neutralTexts)
    (keys : neutralTexts.KeysHold data) (h : s.compileUpdate data = .ok compiled) :
    ∃ pairs table rows, data.pairs? = some pairs ∧
      s.UpdateShows pairs compiled table rows := by
  obtain ⟨source, pairs, table, found, written⟩ := of_compileUpdate h
  obtain ⟨rows, laid, writes⟩ := sound.laidRows
  have mutation : LaidMutation neutralTexts s data .update
      (updateLayout source.sql.display pairs rows) :=
    .update found (sound.holds_of_requireTable table) (keys pairs found) laid
  have shows := mutation.aligned.shows
  rw [← written rows writes] at shows
  refine ⟨pairs, source.sql.display, rows, found, sound.targets table, ⟨laid, writes⟩, shows, ?_⟩
  rw [shows.params, writes.values]
  simp [updateLayout, Layout.values_assigned]

/-- A DELETE of a state that is sound for mutations binds the values of WHERE. -/
theorem WriteSound.deleteShows (sound : s.WriteSound neutralTexts)
    (h : s.compileDelete = .ok compiled) :
    ∃ table rows, s.DeleteShows compiled table rows := by
  obtain ⟨source, table, written⟩ := of_compileDelete h
  obtain ⟨rows, laid, writes⟩ := sound.laidRows
  have mutation : LaidMutation neutralTexts s .null .delete
      (deleteLayout source.sql.display rows) :=
    .delete (sound.holds_of_requireTable table) laid
  have shows := mutation.aligned.shows
  rw [← written rows writes] at shows
  refine ⟨source.sql.display, rows, sound.targets table, ⟨laid, writes⟩, shows, ?_⟩
  rw [shows.params, writes.values]
  simp [deleteLayout]

/-! ## What mutations read -/

/-- States agree for mutations: on the source and on the conditions on rows. -/
structure MutatesAlike (s s' : State) : Prop where
  /-- The source. -/
  source : s.source = s'.source
  /-- The conditions on rows. -/
  rows : s.rowConditions = s'.rowConditions

namespace MutatesAlike

variable {s' : State} (alike : s.MutatesAlike s')

include alike

/-- States that agree have the same table to write to, or fail in the same way. -/
theorem requireTable (mutation : Mutation) :
    s.requireTable mutation = s'.requireTable mutation := by
  simp only [State.requireTable, requireSource, alike.source]

/-- States that agree have the same WHERE. -/
theorem whereText : s.whereText = s'.whereText := by
  simp only [State.whereText, clauseText, conditions, alike.rows]

/-- States that agree bind the same values in WHERE. -/
theorem rowParams : s.clauseParams .rows = s'.clauseParams .rows := by
  simp only [clauseParams, conditions, alike.rows]

/-- States that agree compile to the same INSERT. -/
theorem compileInsert (data : Value) : s.compileInsert data = s'.compileInsert data := by
  simp only [State.compileInsert, alike.requireTable]

/-- States that agree compile to the same UPDATE. -/
theorem compileUpdate (data : Value) : s.compileUpdate data = s'.compileUpdate data := by
  simp only [State.compileUpdate, alike.requireTable, alike.whereText, alike.rowParams]

/-- States that agree compile to the same DELETE. -/
theorem compileDelete : s.compileDelete = s'.compileDelete := by
  simp only [State.compileDelete, alike.requireTable, alike.whereText, alike.rowParams]

end MutatesAlike

end State

/-! ## Programs -/

variable {T : TextClass} {d : Driver}

/-- What mutations read of a statement is sound, and the predicate for empty groups is in the
class. -/
structure Statement.WriteSound (T : TextClass) (st : Statement d) : Prop where
  /-- The predicate for empty groups. -/
  emptyGroup : T.Holds st.options.emptyGroup
  /-- The state. -/
  state : st.state.WriteSound T

/-- A statement with nothing but what mutations read: the source and the conditions on rows. -/
def Statement.forMutations (st : Statement d) : Statement d :=
  { st with state := { source := st.state.source, rowConditions := st.state.rowConditions } }

/-- Without the parts that mutations do not read, a statement that is sound for them is sound. -/
theorem Statement.WriteSound.forMutations {st : Statement d} (h : st.WriteSound T) :
    st.forMutations.Sound T where
  emptyGroup := h.emptyGroup
  state := { State.sound_empty with
    texts := { (State.sound_empty (T := T)).texts with }
    source := h.state.source
    clause := fun c => by
      cases c with
      | rows => exact h.state.rows
      | groups => exact State.sound_empty.clause .groups }

/-- A call on the source or on the conditions on rows. -/
def Call.Writes (call : Call) : Prop :=
  call.part = some .source ∨ call.part = some .rows

/-- The texts that a program interpolates into the source and into the conditions on rows are in a
class, and all texts that their callbacks interpolate. Calls that fail do not matter, and neither do
those on other parts. -/
def Call.WritesClean (T : TextClass) : List Call → Statement d → Prop
  | [], _ => True
  | call :: rest, st =>
    (call.Writes → (call.run st).1.toBool = true → call.Clean T st) ∧
      Call.WritesClean T rest (call.run st).2

namespace Call

variable {call : Call} {st : Statement d}

/-- The texts of such a call do not depend on the other parts of the statement. -/
theorem Writes.clean (writes : call.Writes) (clean : call.Clean T st) :
    call.Clean T st.forMutations := by
  have promise (argument : Arg) : argument.promise T st.forMutations = argument.promise T st := by
    cases argument <;> rfl
  cases call with
  | readFrom source aliasName =>
    rw [Clean, promise]
    exact clean
  | require clause column operator value connector =>
    rw [Clean, promise, promise, promise]
    exact clean
  | requireMember operator column values connector =>
    rw [Clean, promise, promise]
    exact clean
  | _ => rcases writes with own | own <;> cases own

/-- Such a call does the same to its part without the other parts of the statement. -/
theorem alike_forMutations {part : Part} (own : call.part = some part)
    (read : part = .source ∨ part = .rows) :
    Outcome.Alike part (call.run st) (call.run st.forMutations) := by
  have self {x y : Outcome d Unit} (alike : Outcome.Alike part x y) :
      Outcome.Alike part x.self y.self :=
    ⟨by rw [Outcome.self, Outcome.self, alike.outcome], alike.agree⟩
  have agree : Statement.Agree part st st.forMutations := by
    refine ⟨rfl, rfl, ?_⟩
    rcases read with rfl | rfl <;> rfl
  cases call with
  | readFrom source aliasName =>
    obtain rfl := Option.some.inj own
    exact self (Statement.alike_readFrom agree _ _)
  | require clause column operator value connector =>
    obtain rfl := Option.some.inj own
    exact self (Statement.alike_require agree _ _ _ _)
  | requireMember operator column values connector =>
    obtain rfl := Option.some.inj own
    exact self (Statement.alike_requireMember agree _ _ _ _)
  | _ => rcases read with rfl | rfl <;> cases own

/-- Such a call changes nothing when it fails. -/
theorem Writes.state_of_error (writes : call.Writes) {e : Error}
    (failed : (call.run st).1 = .error e) : (call.run st).2.state = st.state := by
  rw [Call.state_of_error failed]
  cases call with
  | select | group | first => rcases writes with own | own <;> cases own
  | _ => rfl

/-- A call keeps a statement sound for mutations: if it is about the source or the conditions on
rows and succeeds its texts have to be in the class, and otherwise it leaves them as they are. -/
theorem run_writeSound (sound : st.WriteSound T)
    (clean : call.Writes → (call.run st).1.toBool = true → call.Clean T st) :
    (call.run st).2.WriteSound T := by
  have stays {part : Part} (other : call.part ≠ some part) :
      (call.run st).2.state.content part = st.state.content part :=
    (Call.moves (call.yields_anything st)).content_of_ne other
  -- What other calls did to the statement need not be sound, so the call is made on one without it.
  have made (writes : call.Writes) :
      (call.run st.forMutations).2.Sound T ∨ (call.run st).2.state = st.state := by
    cases outcome : (call.run st).1 with
    | error e => exact .inr (writes.state_of_error outcome)
    | ok answer =>
      have clean := clean writes (outcome ▸ rfl)
      exact .inl (call.run_sound _ sound.forMutations (writes.clean clean))
  refine ⟨?_, ?_, ?_⟩
  · rw [Call.options_run]
    exact sound.emptyGroup
  · by_cases own : call.part = some .source
    · have same : (call.run st).2.state.source = (call.run st.forMutations).2.state.source :=
        (alike_forMutations own (.inl rfl)).agree.content
      rcases made (.inl own) with made | unchanged
      · rw [same]
        exact made.state.source
      · rw [unchanged]
        exact sound.state.source
    · have same : (call.run st).2.state.source = st.state.source := stays own
      rw [same]
      exact sound.state.source
  · by_cases own : call.part = some .rows
    · have same : (call.run st).2.state.rowConditions =
          (call.run st.forMutations).2.state.rowConditions :=
        (alike_forMutations own (.inr rfl)).agree.content
      rcases made (.inr own) with made | unchanged
      · rw [same]
        exact made.state.clause .rows
      · rw [unchanged]
        exact sound.state.rows
    · have same : (call.run st).2.state.rowConditions = st.state.rowConditions := stays own
      rw [same]
      exact sound.state.rows

/-- A program keeps a statement sound for mutations. -/
theorem attempt_writeSound (calls : List Call) (st : Statement d) (sound : st.WriteSound T)
    (clean : Call.WritesClean T calls st) : (Call.attempt calls st).2.WriteSound T := by
  induction calls generalizing st with
  | nil => exact sound
  | cons call rest ih => exact ih _ (run_writeSound sound clean.1) clean.2

end Call

/-- Whatever a program has made of a statement, a mutation that compiles shows the values that it
binds: those of the data, each at the place of its column, and those of WHERE, with one placeholder
for each. The texts of the source and of the conditions on rows have to be neutral as they are
interpolated, those of callbacks included: a join in a callback counts with the columns that it
infers. Other calls do not matter, and neither do those that fail. States with the same source and
conditions on rows compile to the same mutations. -/
theorem mutations_bind_what_they_show (options : Options) (session : Option (Session d))
    (program : List Call) (emptyGroup : Neutral options.emptyGroup)
    (clean : Call.WritesClean neutralTexts program (.blank options session)) {s : State}
    (reached : (Call.attempt program (.blank options session)).2.state = s) (data : Value)
    (keys : neutralTexts.KeysHold data) :
    (∀ compiled, s.compileInsert data = .ok compiled →
      compiled.placeholderCount = compiled.params.length ∧
        ∃ pairs table columns, data.pairs? = some pairs ∧
          s.InsertShows pairs compiled table columns) ∧
    (∀ compiled, s.compileUpdate data = .ok compiled →
      compiled.placeholderCount = compiled.params.length ∧
        ∃ pairs table rows, data.pairs? = some pairs ∧
          s.UpdateShows pairs compiled table rows) ∧
    (∀ compiled, s.compileDelete = .ok compiled →
      compiled.placeholderCount = compiled.params.length ∧
        ∃ table rows, s.DeleteShows compiled table rows) ∧
    ∀ s' : State, s.MutatesAlike s' →
      s.compileInsert data = s'.compileInsert data ∧
        s.compileUpdate data = s'.compileUpdate data ∧ s.compileDelete = s'.compileDelete := by
  have sound : s.WriteSound neutralTexts := by
    rw [← reached]
    exact (Call.attempt_writeSound program (.blank options session)
      ⟨emptyGroup, State.sound_empty.writeSound⟩ clean).state
  refine ⟨?_, ?_, ?_, ?_⟩
  · intro compiled h
    obtain ⟨pairs, table, columns, found, shows⟩ := sound.insertShows keys h
    refine ⟨?_, pairs, table, columns, found, shows⟩
    have count := congrArg List.length shows.keys
    simp only [List.length_map] at count
    simp [Compiled.placeholderCount, shows.positions, shows.params, count]
  · intro compiled h
    obtain ⟨pairs, table, rows, found, shows⟩ := sound.updateShows keys h
    exact ⟨shows.shows.count, pairs, table, rows, found, shows⟩
  · intro compiled h
    obtain ⟨table, rows, shows⟩ := sound.deleteShows h
    exact ⟨shows.shows.count, table, rows, shows⟩
  · intro s' alike
    exact ⟨alike.compileInsert data, alike.compileUpdate data, alike.compileDelete⟩

/-- A callback whose statement joins posts to quoted users. -/
def joinedUsers : List Call :=
  let text (s : String) : Arg := .value (.text s)
  let missing : Arg := .value .null
  [.readFrom (text "\"app\".users") missing,
    .join (text "posts") missing missing missing (text "") missing,
    .require .rows (text "f") (text "=") (.value (.int 6)) (text "AND")]

/-- A program with values in WHERE, in HAVING and in a union, with a second source that leaves a
quote open and is refused, and with a join whose text is cut inside quotes. -/
def crowdedProgram : List Call :=
  let text (s : String) : Arg := .value (.text s)
  let missing : Arg := .value .null
  [.readFrom (text "\"my.table\"") missing,
    .join (text "orders") missing missing missing (text "") missing,
    .require .rows (text "a") (text ">") (.value (.int 1)) (text "AND"),
    .readFrom (text "it's") missing,
    .require .rows (text "b") (text "IN") (.callback joinedUsers) (text "OR"),
    .group [text "a"],
    .require .groups (text "COUNT(*)") (text ">") (.value (.int 4)) (text "AND"),
    .union (.callback
      [.readFrom (text "w") missing,
        .require .rows (text "e") (text "=") (.value (.int 5)) (text "AND")]) (text "")]

/-- The texts that the callback interpolates are neutral, the inferred columns included. -/
theorem clean_joinedUsers :
    Call.AllClean (d := Recording.driver) neutralTexts joinedUsers (.blank {} none) := by
  refine ⟨fun _ => (by decide : Neutral "\"app\".users"), ⟨?_, ?_, fun _ _ _ => ⟨?_, ?_⟩⟩,
    ⟨TextClass.fieldHolds_text (by decide : Neutral "f"),
      TextClass.fieldHolds_text (by decide : Neutral "=")⟩, trivial⟩
  · intro kind given
    exact Value.text.inj given ▸ (by decide : Neutral "")
  · exact (by decide : Neutral "posts")
  · exact (by decide : Neutral "=")
  · intro first second compared
    obtain ⟨rfl, rfl⟩ : "\"app\".users.id" = first ∧ "posts.users_id" = second :=
      Prod.mk.inj (Except.ok.inj compared)
    exact ⟨(by decide : Neutral _), (by decide : Neutral _)⟩

/-- The texts of the program that mutations read are neutral. -/
theorem clean_crowdedProgram : Call.WritesClean (d := Recording.driver) neutralTexts crowdedProgram
    (.blank {} none) := by
  have test {column operator : String} (hc : Neutral column) (ho : Neutral operator) :
      neutralTexts.FieldHolds (.text column) ∧ neutralTexts.FieldHolds (.text operator) :=
    ⟨TextClass.fieldHolds_text hc, TextClass.fieldHolds_text ho⟩
  have unread {call : Call} {runs clean : Prop} (other : ¬call.Writes) :
      call.Writes → runs → clean :=
    fun writes => absurd writes other
  have compared := test (by decide : Neutral "a") (by decide : Neutral ">")
  obtain ⟨column, operator⟩ := test (by decide : Neutral "b") (by decide : Neutral "IN")
  refine ⟨fun _ _ _ => (by decide : Neutral "\"my.table\""), unread ?_, fun _ _ => compared,
    fun _ runs => absurd runs Bool.false_ne_true,
    fun _ _ => ⟨column, operator, clean_joinedUsers⟩, unread ?_, unread ?_, unread ?_, trivial⟩
  all_goals simp [Call.Writes, Call.part, Clause.part]

/-- The program leaves an UPDATE that binds its data and the two values of WHERE, and no other. -/
theorem mutations_bind_what_they_show_crowdedProgram :
    ∃ compiled, (Call.attempt (d := Recording.driver) crowdedProgram
        (.blank {} none)).2.state.compileUpdate
          (.mapping [(.text "c", .text "x"), (.text "'?'", .int 7)]) = .ok compiled ∧
      compiled.sql = "UPDATE \"my.table\" SET c = ?, '?' = ? WHERE a > ? OR b IN (SELECT * FROM " ++
        "\"app\".users JOIN posts ON \"app\".users.id = posts.users_id WHERE f = ?)" ∧
      compiled.placeholderCount = 4 ∧
      compiled.params = [.text "x", .int 7, .int 1, .int 6] := by
  have keys : neutralTexts.KeysHold (.mapping [(.text "c", .text "x"), (.text "'?'", .int 7)]) := by
    intro pairs found key hk
    rw [← Option.some.inj found] at hk
    simp only [List.map_cons, List.map_nil, List.mem_cons, List.not_mem_nil, or_false] at hk
    rcases hk with rfl | rfl
    · exact (by decide : Neutral "c")
    · exact (by decide : Neutral "'?'")
  have text : ((Call.attempt (d := Recording.driver) crowdedProgram
      (.blank {} none)).2.state.compileUpdate
        (.mapping [(.text "c", .text "x"), (.text "'?'", .int 7)])).toOption.map Compiled.sql =
      some ("UPDATE \"my.table\" SET c = ?, '?' = ? WHERE a > ? OR b IN (SELECT * FROM " ++
        "\"app\".users JOIN posts ON \"app\".users.id = posts.users_id WHERE f = ?)") := by
    decide +kernel
  have rows : (Call.attempt (d := Recording.driver) crowdedProgram
      (.blank {} none)).2.state.clauseParams .rows = [.int 1, .int 6] := rfl
  obtain ⟨-, update, -⟩ := mutations_bind_what_they_show {} none crowdedProgram (by decide)
    clean_crowdedProgram rfl _ keys
  cases compiles : (Call.attempt (d := Recording.driver) crowdedProgram
      (.blank {} none)).2.state.compileUpdate
        (.mapping [(.text "c", .text "x"), (.text "'?'", .int 7)]) with
  | error e =>
    rw [compiles] at text
    cases text
  | ok compiled =>
    rw [compiles] at text
    obtain ⟨count, pairs, table, where_, found, shows⟩ := update compiled compiles
    have params : compiled.params = [.text "x", .int 7, .int 1, .int 6] := by
      rw [shows.params, rows, ← Option.some.inj found]
      rfl
    refine ⟨compiled, rfl, Option.some.inj text, ?_, params⟩
    rw [count, params]
    rfl

/-- In a callback a join that is cut inside quotes does matter. Its text leaves a quote open, and
that swallows the placeholder of a value that the deletion binds. -/
theorem deletion_cut_inside_quotes :
    let text (s : String) : Arg := .value (.text s)
    let missing : Arg := .value .null
    let reached := (Call.attempt (d := Recording.driver)
      [.readFrom (text "t") missing,
        .require .rows (text "id") (text "IN")
          (.callback [.readFrom (text "\"my.table\"") missing,
            .join (text "orders") missing missing missing (text "") missing,
            .require .rows (text "a") (.value (.int 1)) (.value .omitted) (text "AND")])
          (text "AND")]
      (.blank {} none)).2
    (∀ given ∈ ["t", "id", "IN", "\"my.table\"", "orders", "a"], Neutral given) ∧
      reached.state.compileDelete.toOption.map Compiled.sql =
        some ("DELETE FROM t WHERE id IN (SELECT * FROM \"my.table\" JOIN orders ON " ++
          "\"my.table\".id = orders.table\"_id WHERE a = ?)") ∧
      reached.state.compileDelete.toOption.map (fun compiled =>
        (compiled.placeholderCount, compiled.params.length)) = some (0, 1) := by
  decide +kernel

end SqlBuilder
