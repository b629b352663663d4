import SqlBuilder.Proofs.Conditions
import SqlBuilder.Proofs.Displayed
import SqlBuilder.Proofs.Fragment
import SqlBuilder.Proofs.Interpolation

/-!
# Programs keep their statements laid out

A state is sound when its texts are in a class and each of its fragments has a layout. The empty
state is sound, and every call whose texts are in the class keeps a statement sound, whether it
succeeds or fails: what a callback builds is a sound statement of its own, whose layout becomes a
part of the new fragment. A sound state that compiles has a layout as a whole.
-/

set_option autoImplicit false

namespace SqlBuilder

open TextClass (plain_of_all)

variable {T : TextClass} {d : Driver}

/-! ## Sound states -/

/-- The texts of a state are in a class and all its fragments have layouts. -/
structure State.Sound (T : TextClass) (s : State) : Prop where
  /-- The texts. -/
  texts : s.TextsHold T
  /-- The source. -/
  source : ∀ from_, s.source = some from_ → ∃ l, Laid T (.source from_) l
  /-- The conditions of a clause. -/
  clause : ∀ c, ∃ l, Laid T (.clause (s.conditions c)) l
  /-- The united statements. -/
  unions : ∃ l, Laid T (.unions s.unions) l

/-- The state of a statement is sound, and the predicate for empty groups is in the class. -/
structure Statement.Sound (T : TextClass) (st : Statement d) : Prop where
  /-- The predicate for empty groups. -/
  emptyGroup : T.Holds st.options.emptyGroup
  /-- The state. -/
  state : st.state.Sound T

namespace State

/-- The empty state is sound. -/
theorem sound_empty : Sound T {} where
  texts :=
    { columns := fun _ h => absurd h List.not_mem_nil
      joins := fun _ h => absurd h List.not_mem_nil
      grouping := fun _ h => absurd h List.not_mem_nil
      ordering := fun _ h => absurd h List.not_mem_nil
      limit := fun _ given => by cases given
      offset := fun _ given => by cases given }
  source := fun _ given => by cases given
  clause c := by cases c <;> exact ⟨[], .noConditions⟩
  unions := ⟨[], .noUnions⟩

/-- What compiles has its columns and grouping columns as texts and reads from a source. -/
theorem of_compile {s : State} {compiled : Sql.Compiled} (h : s.compile = .ok compiled) :
    ∃ from_ columns grouped, s.source = some from_ ∧ s.columnsText = .ok columns ∧
      s.groupingText = .ok grouped ∧ Value.requireWritable s.shownPaging = .ok () := by
  unfold compile selectText requireSource at h
  cases source : s.source with
  | none => simp [source, bind, Except.bind, Except.map] at h
  | some from_ =>
    cases named : s.columnsText with
    | error e => simp [source, named, bind, Except.bind, Except.map] at h
    | ok columns =>
      cases keyed : s.groupingText with
      | ok grouped =>
        refine ⟨from_, columns, grouped, rfl, rfl, rfl, ?_⟩
        cases paged : Value.requireWritable s.shownPaging with
        | ok done => rfl
        | error e =>
          simp [source, named, groupText_eq keyed, paged, bind, Except.bind, Except.map] at h
      | error e =>
        have failed : s.groupText = .error e := by
          unfold groupingText at keyed
          unfold groupText
          split at keyed
          · cases keyed
          · rename_i some
            rw [if_neg some]
            cases joined : joinTexts s.grouping with
            | error e' => simpa [joined, Except.map] using keyed
            | ok texts => simp [joined, Except.map] at keyed
        simp [source, named, failed, bind, Except.bind, Except.map] at h

/-- A sound state that compiles has a layout, which gives its text and values. -/
theorem Sound.laid {s : State} (sound : s.Sound T) {compiled : Sql.Compiled}
    (h : s.compile = .ok compiled) : ∃ l, Laid T (.select s) l ∧ compiled = l.compiled := by
  obtain ⟨from_, columns, grouped, reads, named, keyed, paged⟩ := of_compile h
  obtain ⟨source, hsource⟩ := sound.source from_ reads
  obtain ⟨rows, hrows⟩ := sound.clause .rows
  obtain ⟨groups, hgroups⟩ := sound.clause .groups
  obtain ⟨unions, hunions⟩ := sound.unions
  have laid := Laid.select sound.texts named keyed paged reads hsource hrows hgroups hunions
  refine ⟨_, laid, ?_⟩
  have same := laid.written.symm.trans h
  exact (Except.ok.inj same).symm

/-- One more condition keeps a state sound. -/
theorem Sound.addCondition {s : State} (sound : s.Sound T) {condition : Condition}
    {l : Layout} (h : Laid T (.condition condition) l) (clause : Clause) :
    (s.addCondition clause condition).Sound T := by
  have grown : ∃ m, Laid T (.clause (s.conditions clause ++ [condition])) m := by
    obtain ⟨known, hknown⟩ := sound.clause clause
    by_cases none : s.conditions clause = []
    · rw [none]
      exact ⟨l, .oneCondition h⟩
    · exact ⟨_, .nextCondition none hknown h⟩
  refine ⟨?_, ?_, ?_, ?_⟩
  · cases clause <;> exact ⟨sound.texts.columns, sound.texts.joins, sound.texts.grouping,
      sound.texts.ordering, sound.texts.limit, sound.texts.offset⟩
  · cases clause <;> exact sound.source
  · intro other
    by_cases same : other = clause
    · rw [same, conditions_addCondition]
      exact grown
    · rw [conditions_addCondition_of_ne s condition same]
      exact sound.clause other
  · cases clause <;> exact sound.unions

end State

namespace Statement

variable {st : Statement d}

/-- A change keeps a statement sound if it leads to a sound state. -/
theorem Sound.change (sound : st.Sound T) {state : Except Error State}
    (h : ∀ s, state = .ok s → s.Sound T) : (st.change state).2.Sound T := by
  cases state with
  | error e => exact sound
  | ok s => exact ⟨sound.emptyGroup, h s rfl⟩

/-- A callback makes a sound state of a fresh statement. -/
def Builds (T : TextClass) (st : Statement d) (build : Builder d) : Prop :=
  (build st.fresh).2.state.Sound T

/-- What a callback builds is sound. -/
theorem Builds.nested {build : Builder d} (h : Builds T st build) {s : State}
    (built : (st.nested build).1 = .ok s) : s.Sound T := by
  obtain ⟨_, -, rfl⟩ := of_map_eq_ok built
  exact h

/-- What a callback builds has a layout when it compiles. -/
theorem Builds.laid {build : Builder d} (h : Builds T st build) {compiled : Sql.Compiled}
    (built : (st.nestedCompiled build).1 = .ok compiled) :
    ∃ inner l, Laid T (.select inner) l ∧ compiled = l.compiled := by
  obtain ⟨inner, state, compiles⟩ := of_bind_eq_ok built
  obtain ⟨l, laid, same⟩ := (h.nested state).laid compiles
  exact ⟨inner, l, laid, same⟩

/-- Running a callback changes nothing but the session. -/
theorem Sound.nestedCompiled (sound : st.Sound T) (build : Builder d) :
    (st.nestedCompiled build).2.Sound T :=
  ⟨sound.emptyGroup, sound.state⟩

/-! ## Columns and source -/

/-- Further columns keep a statement sound if their texts are in the class. -/
theorem Sound.select (sound : st.Sound T) {arguments : List Value}
    (h : T.ColumnsHold arguments) : (st.select arguments).2.Sound T := by
  refine ⟨sound.emptyGroup, { sound.state with texts := ?_ }⟩
  refine { sound.state.texts with columns := ?_ }
  intro t ht
  rcases List.mem_append.1 ht with known | new
  · exact sound.state.texts.columns t known
  · exact h t new

/-- Further grouping columns keep a statement sound if their texts are in the class. -/
theorem Sound.group (sound : st.Sound T) {arguments : List Value}
    (h : T.ColumnsHold arguments) : (st.group arguments).2.Sound T := by
  refine ⟨sound.emptyGroup, { sound.state with texts := ?_ }⟩
  refine { sound.state.texts with grouping := ?_ }
  intro t ht
  rcases List.mem_append.1 ht with known | new
  · exact sound.state.texts.grouping t known
  · exact h t new

/-- A callback argument and the condition on its texts: under the condition it builds a sound state
of a fresh statement. -/
inductive Promised (T : TextClass) (st : Statement d) : Argument d → Operand Prop → Prop
  /-- A plain value. -/
  | value (v : Value) : Promised T st (.value v) (.value v)
  /-- A callback. -/
  | callback {build : Builder d} {clean : Prop} (h : clean → Builds T st build) :
    Promised T st (.callback build) (.callback clean)

/-- A state with a source that has a layout is sound. -/
theorem sound_withSource {s : State} (sound : s.Sound T) {from_ : Source} {l : Layout}
    (h : Laid T (.source from_) l) : (withSource s from_).Sound T where
  texts := ⟨sound.texts.columns, sound.texts.joins, sound.texts.grouping, sound.texts.ordering,
    sound.texts.limit, sound.texts.offset⟩
  source known reads := ⟨l, Option.some.inj reads ▸ h⟩
  clause c := by
    cases c with
    | rows => exact sound.clause .rows
    | groups => exact sound.clause .groups
  unions := sound.unions

/-- A table has a layout if the reference to it is in the class. -/
theorem laid_ofReference {reference : Value} {from_ : Source}
    (h : reference.trim?.isSome = true → T.Holds reference.display)
    (found : Source.ofReference reference = .ok from_) : ∃ l, Laid T (.source from_) l := by
  have binds := (Source.bindings_ofReference found).1
  unfold Source.ofReference at found
  split at found
  · cases found
  · split at found
    · cases found
    · rename_i trimmed trim
      split at found
      · cases found
      · obtain ⟨pair, -, rfl⟩ := of_map_eq_ok found
        refine ⟨_, .table binds ?_⟩
        have shown := h (by rw [trim]; rfl)
        exact TextClass.holds_of_marks (TextClass.marks_display_trim? trim).symm shown

/-- Setting the source keeps a statement sound. -/
theorem Sound.readFrom (sound : st.Sound T) {source : Argument d} {promise : Operand Prop}
    (promised : Promised T st source promise) {aliasName : Value}
    (h : T.SourceHolds st.options.subqueryAlias aliasName promise) :
    (st.readFrom source aliasName).2.Sound T := by
  unfold Statement.readFrom
  split
  · exact sound
  · cases promised with
    | value reference =>
      apply sound.change
      intro s changed
      obtain ⟨from_, found, rfl⟩ := of_map_eq_ok changed
      obtain ⟨l, laid⟩ := laid_ofReference h found
      exact sound_withSource sound.state laid
    | @callback build clean built =>
      apply (sound.nestedCompiled build).change
      intro s changed
      obtain ⟨compiled, found, changed⟩ := of_bind_eq_ok changed
      obtain ⟨-, -, changed⟩ := of_bind_eq_ok changed
      obtain rfl := Except.ok.inj changed
      obtain ⟨inner, l, laid, rfl⟩ := (built h.1).laid found
      exact sound_withSource sound.state (.derived laid h.2)

end Statement

/-! ## Joins -/

namespace JoinRequest

variable {r : JoinRequest} {source : Option Source}

/-- A column that is given or inferred is in the class. -/
theorem holds_writtenOr {column : Value} {inferred : Except Error String} {text : String}
    (given : column ≠ .null → T.Holds column.display)
    (h : ∀ text, inferred = .ok text → T.Holds text)
    (found : writtenOr column inferred = .ok text) : T.Holds text := by
  unfold writtenOr at found
  split at found
  · rename_i truthy
    rw [← (Value.written_eq_ok_iff.1 found).2]
    apply given
    rintro rfl
    cases truthy
  · exact h text found

/-- The name that a reference without marks gives to a joined table has none. -/
theorem plain_of_referenceOf {table aliasName reference : Value}
    (plain : T.Plain reference.display)
    (found : Sql.referenceOf reference = .ok (table, aliasName)) : T.Plain aliasName.display := by
  have textual : reference.words?.isSome = true := by
    cases reference with
    | text s => rfl
    | bytes form data => cases form <;> first | rfl | cases found
    | _ => cases found
  obtain ⟨s, rfl⟩ := TextClass.text_of_plain plain textual
  have whole : T.Plain (Text.trim s) := by
    rw [TextClass.Plain, TextClass.marks_trim]
    exact plain
  simp only [Sql.referenceOf, Except.ok.injEq, Prod.mk.injEq] at found
  rw [← found.2, Value.display_text]
  unfold Sql.parseReference
  split
  · rename_i words
    exact plain.of_mem_words (words ▸ by simp)
  · rename_i words
    split
    · exact plain.of_mem_words (words ▸ by simp)
    · exact whole
  · exact whole

/-- The last part of a table name without marks has none. -/
theorem plain_of_keyTable {table : Value} {key : String} (plain : T.Plain table.display)
    (found : keyTable table = .ok key) : T.Plain key := by
  cases table with
  | text s =>
    obtain rfl : lastPart s = key := Except.ok.inj found
    apply plain.of_sublist
    have part := List.takeWhile_sublist (l := s.toList.reverse) (· != '.')
    simpa using part.reverse
  | bytes form data => cases form <;> cases found
  | _ => cases found

/-- The compared columns of a join on a source when one is missing. -/
def inferredColumns (r : JoinRequest) : Option Source → Except Error (String × String)
  | none => .error (.tableNotSet "join")
  | some source => do
    let (_, joined) ← Sql.referenceOf r.table
    let key ← keyTable source.table
    let first ← writtenOr r.first (source.aliasName.written.map (· ++ ".id"))
    let second ← writtenOr r.second (.ok (joined.display ++ "." ++ key ++ "_id"))
    .ok (first, second)

/-- The compared columns of a join when both are given. -/
def givenColumns (r : JoinRequest) : Except Error (String × String) := do
  .ok (← r.first.written, ← r.second.written)

/-- Missing columns are inferred; given ones are compared as they are. -/
theorem comparedColumns_eq (r : JoinRequest) (source : Option Source) :
    r.comparedColumns source = r.inferredColumns source ∧ (r.first = .null ∨ r.second = .null) ∨
      r.comparedColumns source = r.givenColumns ∧ r.first ≠ .null ∧ r.second ≠ .null := by
  unfold comparedColumns
  split
  · rename_i missing
    refine .inl ⟨?_, .inl missing⟩
    cases source <;> rfl
  · rename_i missing _
    refine .inl ⟨?_, .inr missing⟩
    cases source <;> rfl
  · rename_i first second
    exact .inr ⟨rfl, first, second⟩

/-- Columns that are inferred from references and aliases without marks are in the class. -/
theorem holds_inferredColumns (givenFirst : r.first ≠ .null → T.Holds r.first.display)
    (givenSecond : r.second ≠ .null → T.Holds r.second.display) (table : T.Plain r.table.display)
    (known : ∀ from_, source = some from_ →
      T.Plain from_.table.display ∧ T.Plain from_.aliasName.display)
    {first second : String} (found : r.inferredColumns source = .ok (first, second)) :
    T.Holds first ∧ T.Holds second := by
  cases source with
  | none => cases found
  | some from_ =>
    obtain ⟨tablePlain, aliasPlain⟩ := known from_ rfl
    obtain ⟨⟨joinedTable, joined⟩, names, found⟩ := of_bind_eq_ok found
    obtain ⟨key, last, found⟩ := of_bind_eq_ok found
    obtain ⟨shownFirst, foundFirst, found⟩ := of_bind_eq_ok found
    obtain ⟨shownSecond, foundSecond, found⟩ := of_bind_eq_ok found
    obtain ⟨rfl, rfl⟩ := Prod.mk.inj (Except.ok.inj found)
    constructor
    · refine holds_writtenOr givenFirst (fun text qualified => ?_) foundFirst
      obtain ⟨qualifier, shown, rfl⟩ := of_map_eq_ok qualified
      rw [← (Value.written_eq_ok_iff.1 shown).2]
      exact (aliasPlain.append (plain_of_all (by decide))).holds
    · refine holds_writtenOr givenSecond (fun text qualified => ?_) foundSecond
      rw [← Except.ok.inj qualified]
      have joinedPlain := plain_of_referenceOf table names
      have keyPlain := plain_of_keyTable tablePlain last
      have dot : T.Plain "." := plain_of_all (by decide)
      exact (((joinedPlain.append dot).append keyPlain).append (plain_of_all (by decide))).holds

/-- Columns that are given in the class, or inferred from references and aliases without marks, are
in the class. -/
theorem columnsHold_of_plain (first : r.first ≠ .null → T.Holds r.first.display)
    (second : r.second ≠ .null → T.Holds r.second.display)
    (inferred : r.first = .null ∨ r.second = .null → T.Plain r.table.display ∧
      ∀ from_, source = some from_ →
        T.Plain from_.table.display ∧ T.Plain from_.aliasName.display) :
    r.ColumnsHold T source := by
  intro _ _ found
  rcases comparedColumns_eq r source with ⟨same, missing⟩ | ⟨same, givenFirst, givenSecond⟩
  · rw [same] at found
    exact holds_inferredColumns first second (inferred missing).1 (inferred missing).2 found
  · rw [same] at found
    obtain ⟨_, shownFirst, found⟩ := of_bind_eq_ok found
    obtain ⟨_, shownSecond, found⟩ := of_bind_eq_ok found
    obtain ⟨rfl, rfl⟩ := Prod.mk.inj (Except.ok.inj found)
    rw [← (Value.written_eq_ok_iff.1 shownFirst).2, ← (Value.written_eq_ok_iff.1 shownSecond).2]
    exact ⟨first givenFirst, second givenSecond⟩

/-- Columns that are not given as one text are listed. -/
theorem sharedColumns_eq {shared : Value} (h : ∀ s, shared ≠ .text s) :
    sharedColumns shared = (shared.items.bind joinTexts).bind fun columns =>
      if columns.isEmpty then .error .emptyUsing else .ok columns := by
  cases shared with
  | text s => exact absurd rfl (h s)
  | _ => rfl

/-- Shared columns are in the class. -/
theorem holds_sharedColumns {shared : Value} (h : SharedHold T shared) {columns : String}
    (found : sharedColumns shared = .ok columns) : T.Holds columns := by
  have filled {joined : String}
      (found : (if joined.isEmpty then .error .emptyUsing else .ok joined : Except Error String) =
        .ok columns) : joined = columns := by
    split at found
    · cases found
    · exact Except.ok.inj found
  unfold SharedHold at h
  split at h
  · exact filled found ▸ h
  · rename_i other
    rw [sharedColumns_eq other] at found
    obtain ⟨joined, joins, found⟩ := of_bind_eq_ok found
    obtain ⟨values, iterated, texts⟩ := of_bind_eq_ok joins
    exact filled found ▸ TextClass.holds_of_joinTexts (h values iterated) texts

/-- The matching of a join is in the class. -/
theorem MatchHolds.matching (h : r.MatchHolds T source) {text : String}
    (found : r.matching source = .ok text) : T.Holds text := by
  unfold MatchHolds at h
  unfold JoinRequest.matching at found
  split at h
  · rename_i none
    simp only [none] at found
    obtain ⟨⟨first, second⟩, compared, found⟩ := of_bind_eq_ok found
    obtain ⟨operator, shown, found⟩ := of_bind_eq_ok found
    obtain ⟨firstHolds, secondHolds⟩ := h.2 first second compared
    rw [← Except.ok.inj found, ← (Value.written_eq_ok_iff.1 shown).2]
    have space : T.Holds " " := (plain_of_all (by decide)).holds
    have on : T.Holds " ON " := (plain_of_all (by decide)).holds
    exact T.holds_append (T.holds_append (T.holds_append (T.holds_append
      (T.holds_append on firstHolds) space) h.1) space) secondHolds
  · rename_i given
    split at found
    · rename_i none
      exact absurd none given
    · obtain ⟨columns, listed, found⟩ := of_bind_eq_ok found
      rw [← Except.ok.inj found]
      have using_ : T.Holds " USING" := (plain_of_all (by decide)).holds
      have bracketed := T.holds_append using_ (T.holds_bracketed (holds_sharedColumns h listed))
      rwa [← String.append_assoc, ← String.append_assoc] at bracketed

/-- The kind of a join is in the class. -/
theorem holds_kindText {kind : Value} (h : ∀ s, kind = .text s → T.Holds s) {text : String}
    (found : kindText kind = .ok text) : T.Holds text := by
  unfold kindText at found
  split at found
  · rename_i s
    rw [← Except.ok.inj found]
    apply TextClass.holds_of_marks _ (h s rfl)
    rw [TextClass.marks_upper, TextClass.marks_words]
  · split at found
    · rw [← Except.ok.inj found]
      exact T.holds_empty
    · cases found
    · cases found

/-- A join is in the class. -/
theorem TextsHold.render (h : r.TextsHold T source) {text : String}
    (found : r.render source = .ok text) : T.Holds text := by
  obtain ⟨kind, kinds, found⟩ := of_bind_eq_ok found
  have kindHolds := holds_kindText h.kind kinds
  have openingHolds : T.Holds (opening kind) := by
    unfold opening
    split
    · exact (plain_of_all (by decide)).holds
    · exact T.holds_append kindHolds (plain_of_all (by decide)).holds
  have space : T.Holds " " := (plain_of_all (by decide)).holds
  obtain ⟨ending, matched, found⟩ := of_bind_eq_ok found
  obtain ⟨table, shown, found⟩ := of_bind_eq_ok found
  rw [← Except.ok.inj found, ← (Value.written_eq_ok_iff.1 shown).2]
  have head : T.Holds (opening kind ++ " " ++ r.table.display) :=
    T.holds_append (T.holds_append openingHolds space) h.table
  apply T.holds_append head
  unfold JoinRequest.ending at matched
  split at matched
  · rw [← Except.ok.inj matched]
    exact T.holds_empty
  · rename_i conditional
    exact (h.matching kind kinds (Bool.eq_false_iff.2 conditional)).matching matched

end JoinRequest

namespace Statement

variable {st : Statement d}

/-- A join keeps a statement sound if its texts are in the class. -/
theorem Sound.join (sound : st.Sound T) {request : JoinRequest}
    (h : request.TextsHold T st.state.source) : (st.join request).2.Sound T := by
  apply sound.change
  intro s changed
  obtain ⟨text, rendered, rfl⟩ := of_map_eq_ok changed
  refine { sound.state with texts := { sound.state.texts with joins := ?_ } }
  intro t ht
  rcases List.mem_append.1 ht with known | new
  · exact sound.state.texts.joins t known
  · rw [List.mem_singleton.1 new]
    exact h.render rendered

/-! ## Unions -/

/-- A union keeps a statement sound. -/
theorem Sound.union (sound : st.Sound T) {branch : Argument d} {promise : Operand Prop}
    (promised : Promised T st branch promise) (h : promise.callbackHolds) (kind : Value) :
    (st.union branch kind).2.Sound T := by
  cases promised with
  | value v => exact sound
  | @callback build clean built =>
    apply (sound.nestedCompiled build).change
    intro s changed
    obtain ⟨compiled, found, changed⟩ := of_bind_eq_ok changed
    obtain ⟨kind, -, changed⟩ := of_bind_eq_ok changed
    obtain ⟨inner, m, laid, rfl⟩ := (built h).laid found
    obtain ⟨l, known⟩ := sound.state.unions
    rw [← Except.ok.inj changed]
    have texts := sound.state.texts
    exact { sound.state with texts := { texts with }, unions := ⟨_, .nextUnion known laid⟩ }

/-! ## Conditions -/

/-- A request and the conditions on its texts: a callback builds a sound state under its
condition. -/
inductive RequestPromised (T : TextClass) (st : Statement d) :
    Request (Builder d) → Request Prop → Prop
  /-- A group. -/
  | group {build : Builder d} {clean : Prop} (h : clean → Builds T st build) :
    RequestPromised T st (.group build) (.group clean)
  /-- A null test. -/
  | nullTest (column : Value) (operator : Option Value) :
    RequestPromised T st (.nullTest column operator) (.nullTest column operator)
  /-- A test against the rows of a statement. -/
  | subquery (column operator : Value) {build : Builder d} {clean : Prop}
    (h : clean → Builds T st build) :
    RequestPromised T st (.subquery column operator build) (.subquery column operator clean)
  /-- A test against a value. -/
  | test (column operator value : Value) :
    RequestPromised T st (.test column operator value) (.test column operator value)

/-- An argument and the condition on its texts come from one argument over callbacks with their
conditions. -/
theorem Promised.over {argument : Argument d} {promise : Operand Prop}
    (h : Promised T st argument promise) :
    ∃ known : Operand { built : Builder d × Prop // built.2 → Builds T st built.1 },
      argument = known.map (fun built => built.1.1) ∧
        promise = known.map (fun built => built.1.2) := by
  cases h with
  | value v => exact ⟨.value v, rfl, rfl⟩
  | callback built => exact ⟨.callback ⟨(_, _), built⟩, rfl, rfl⟩

/-- The arguments of a condition ask for the same as the conditions on their texts. -/
theorem Promised.request {column operator value : Argument d}
    {column' operator' value' : Operand Prop}
    (hc : Promised T st column column') (ho : Promised T st operator operator')
    (hv : Promised T st value value') :
    RequestPromised T st (.of column operator value) (.of column' operator' value') := by
  obtain ⟨column, rfl, rfl⟩ := hc.over
  obtain ⟨operator, rfl, rfl⟩ := ho.over
  obtain ⟨value, rfl, rfl⟩ := hv.over
  rw [Request.of_map, Request.of_map]
  cases Request.of column operator value with
  | group built => exact .group built.property
  | nullTest column operator => exact .nullTest column operator
  | subquery column operator built => exact .subquery column operator built.property
  | test column operator value => exact .test column operator value

/-- A group of a sound state has a layout. -/
theorem laid_ofGroup {inner : State} (sound : inner.Sound T) {connector : Value} {empty : String}
    (holds : T.Holds empty) {clause : Clause} {c : Condition}
    (made : Condition.ofGroup connector empty (inner.clauseText clause)
      (inner.clauseParams clause) = .ok c) : ∃ l, Laid T (.condition c) l := by
  obtain ⟨k, rfl⟩ := Condition.of_ofGroup made
  obtain ⟨l, laid⟩ := sound.clause clause
  obtain ⟨text, values, none_iff⟩ := laid.written
  rw [State.clauseText, State.clauseParams, text, values, Condition.groupText, Layout.text_isEmpty]
  by_cases none : inner.conditions clause = []
  · obtain rfl := none_iff.2 none
    exact ⟨_, .emptyGroup holds⟩
  · have filled : l.isEmpty = false := by
      simpa using fun empty => none (none_iff.1 empty)
    rw [filled]
    exact ⟨_, .group none laid⟩

/-- An operator or its default is in the class. -/
theorem fieldHolds_orElse {operator : Value} (h : T.FieldHolds operator) {default : String}
    (plain : T.Plain default) : T.FieldHolds (operator.orElse (.text default)) := by
  unfold Value.orElse
  split
  · exact h
  · intro s shown
    exact Except.ok.inj shown ▸ plain.holds

/-- A condition that a request asks for has a layout. -/
theorem Sound.resolve (sound : st.Sound T) {request : Request (Builder d)}
    {promise : Request Prop} (promised : RequestPromised T st request promise)
    (h : T.RequestHolds promise) {clause : Option String} {connector : Value} {c : Condition}
    (made : (st.resolve st.options.emptyGroup clause connector request).1 = .ok c) :
    ∃ l, Laid T (.condition c) l := by
  have defaultPlain : T.Plain "IN" := plain_of_all (by decide)
  cases promised with
  | group built =>
    obtain ⟨inner, state, grouped⟩ := of_bind_eq_ok made
    exact laid_ofGroup ((built h).nested state) sound.emptyGroup grouped
  | nullTest column operator =>
    obtain ⟨k, col, op, rfl, known, operators⟩ := Condition.of_ofNullTest made
    refine ⟨_, .nullTest (h.1 col known) ?_⟩
    -- The operator is a text of the caller, or the argument itself if it spells a null test, or
    -- missing.
    rcases operators with ⟨v, given, shown⟩ | ⟨-, rfl⟩
    · rcases h.2 v given with holds | ⟨s, rfl, bare⟩
      · exact holds op shown
      · exact Except.ok.inj shown ▸ (TextClass.plain_of_isBare bare).holds
    · exact (plain_of_all (by decide)).holds
  | subquery column operator built =>
    obtain ⟨compiled, found, made⟩ := of_bind_eq_ok made
    obtain ⟨k, col, op, rfl, known, shown⟩ := Condition.of_ofSubquery made
    obtain ⟨inner, l, laid, rfl⟩ := (built h.2.2).laid found
    exact ⟨_, .subquery (h.1 col known) (fieldHolds_orElse h.2.1 defaultPlain op shown) laid⟩
  | test column operator value =>
    rcases Condition.of_ofTest made with
      ⟨k, col, op, items, rfl, some, known, shown⟩ | ⟨k, col, op, rfl, known, shown⟩
    · exact ⟨_, .membership (h.1 col known) (fieldHolds_orElse h.2 defaultPlain op shown) some⟩
    · have equals : T.Plain "=" := plain_of_all (by decide)
      exact ⟨_, .simple (h.1 col known) (fieldHolds_orElse h.2 equals op shown)⟩

/-- Resolving a request changes nothing but the session. -/
theorem Sound.resolved (sound : st.Sound T) (emptyGroup : String) (clause : Option String)
    (connector : Value) (request : Request (Builder d)) :
    (st.resolve emptyGroup clause connector request).2.Sound T := by
  cases request with
  | group build => exact ⟨sound.emptyGroup, sound.state⟩
  | nullTest column operator => exact sound
  | subquery column operator build => exact sound.nestedCompiled build
  | test column operator value => exact sound

/-- One more condition keeps a statement sound if its texts are in the class. -/
theorem Sound.require (sound : st.Sound T) {column operator value : Argument d}
    {column' operator' value' : Operand Prop} (hc : Promised T st column column')
    (ho : Promised T st operator operator') (hv : Promised T st value value')
    (h : T.RequestHolds (Request.of column' operator' value')) (clause : Clause)
    (connector : Value) : (st.require clause column operator value connector).2.Sound T := by
  unfold Statement.require
  split
  · exact sound
  · rename_i k _
    apply (sound.resolved _ _ _ _).change
    intro s changed
    obtain ⟨c, made, rfl⟩ := of_map_eq_ok changed
    obtain ⟨l, laid⟩ := sound.resolve (hc.request ho hv) h made
    exact (sound.resolved _ _ _ _).state.addCondition laid clause

/-- A membership test keeps a statement sound if its texts are in the class. -/
theorem Sound.requireMember (sound : st.Sound T) {operator : String} {column values : Argument d}
    {column' values' : Operand Prop} (hc : Promised T st column column')
    (hv : Promised T st values values')
    (h : ∀ items, values'.items = .ok items →
      T.RequestHolds (Request.of column' (.value (.text operator)) items))
    (connector : Value) : (st.requireMember operator column values connector).2.Sound T := by
  rw [requireMember_eq]
  cases hv with
  | callback built =>
    exact sound.require hc (.value _) (.callback built) (h _ rfl) .rows connector
  | value v =>
    cases iterated : v.items with
    | error e => simpa [Operand.items, iterated, Except.map] using sound
    | ok items =>
      have promised : (Operand.value (β := Prop) v).items = .ok (.value (.series .list items)) := by
        simp [Operand.items, iterated, Except.map]
      have needed := h _ promised
      simpa [Operand.items, iterated, Except.map] using
        sound.require hc (.value _) (.value _) needed .rows connector

/-! ## Sorting, paging and running -/

/-- A sort key is in the class if its parts are. -/
theorem holds_sortKey {column direction : Value} (h : T.KeyHolds column direction) {key : String}
    (keyed : sortKey column direction = .ok key) : T.Holds key := by
  obtain ⟨shown, written, keyed⟩ := of_bind_eq_ok keyed
  split at keyed
  · cases keyed
  · rename_i keyword found
    obtain ⟨columnHolds, directionHolds⟩ := h (by rw [found]; rfl)
    rw [← Except.ok.inj keyed, ← (Value.written_eq_ok_iff.1 written).2]
    have keywordHolds : T.Holds keyword.display :=
      TextClass.holds_of_marks (TextClass.marks_display_keyword? found).symm directionHolds
    have space : T.Holds " " := (plain_of_all (by decide)).holds
    exact T.holds_append (T.holds_append columnHolds space) keywordHolds

/-- A sort key keeps a statement sound if it is in the class. -/
theorem Sound.order (sound : st.Sound T) {column direction : Value}
    (h : T.KeyHolds column direction) : (st.order column direction).2.Sound T := by
  apply sound.change
  intro s changed
  obtain ⟨key, keyed, rfl⟩ := of_map_eq_ok changed
  refine { sound.state with texts := { sound.state.texts with ordering := ?_ } }
  intro t ht
  rcases List.mem_append.1 ht with known | new
  · exact sound.state.texts.ordering t known
  · rw [List.mem_singleton.1 new]
    exact holds_sortKey h keyed

/-- A limit and an offset that are accepted are displayed without marks. -/
theorem plain_of_isNegativePaging {limit offset : Value} {negative : Bool}
    (h : isNegativePaging limit offset = .ok negative) (kept : negative = false) :
    T.Plain limit.display ∧ ∀ v, givenOffset offset = some v → T.Plain v.display := by
  obtain ⟨below, compared, h⟩ := of_bind_eq_ok h
  refine ⟨TextClass.plain_of_isNegative compared, ?_⟩
  intro v given
  split at h
  · rw [← Except.ok.inj h] at kept
    cases kept
  · rw [given] at h
    exact TextClass.plain_of_isNegative h

/-- Limit and offset keep a statement sound: they are numbers. -/
theorem Sound.page (sound : st.Sound T) (limit offset : Value) :
    (st.page limit offset).2.Sound T := by
  apply sound.change
  intro s changed
  obtain ⟨negative, compared, changed⟩ := of_bind_eq_ok changed
  split at changed
  · cases changed
  · rename_i kept
    obtain ⟨limitPlain, offsetPlain⟩ :=
      plain_of_isNegativePaging (T := T) compared (Bool.eq_false_iff.2 kept)
    rw [← Except.ok.inj changed]
    refine { sound.state with texts := ?_ }
    refine { sound.state.texts with limit := ?_, offset := ?_ }
    · intro v given
      exact Option.some.inj given ▸ limitPlain.holds
    · intro v given
      exact (offsetPlain v given).holds

/-- Running a statement keeps it sound. -/
theorem Sound.running (sound : st.Sound T) {α : Type} (compiled : Except Error Sql.Compiled)
    (run : Session d → Bool → Sql.Compiled → Except Error α × Session d) :
    (st.running compiled run).2.Sound T := by
  unfold Statement.running
  split
  · exact sound
  · exact sound
  · exact ⟨sound.emptyGroup, sound.state⟩

/-- Reading rows keeps a statement sound. -/
theorem Sound.get (sound : st.Sound T) : st.get.2.Sound T :=
  sound.running st.state.compile Session.fetchAll

/-- Setting the limit to one keeps a statement sound. -/
theorem Sound.limited (sound : st.Sound T) :
    ({ st with state := { st.state with limit := some (.int 1) } } : Statement d).Sound T := by
  refine ⟨sound.emptyGroup, { sound.state with texts := ?_ }⟩
  refine { sound.state.texts with limit := ?_ }
  intro v given
  have compared : Statement.isNegative (.int 1) = .ok false := rfl
  have one : T.Plain (Value.int 1).display := TextClass.plain_of_isNegative compared
  exact Option.some.inj given ▸ one.holds

/-- Reading the first row keeps a statement sound. -/
theorem Sound.first (sound : st.Sound T) : st.first.2.Sound T :=
  sound.limited.get

end Statement

/-! ## Programs -/

mutual

/-- A callback argument builds a sound state of a fresh statement if its texts are in the class. -/
theorem Arg.promised (argument : Arg) (st : Statement d) (holds : T.Holds st.options.emptyGroup) :
    Statement.Promised T st argument.denote (argument.promise T st) := by
  cases argument with
  | value v => exact .value v
  | callback calls =>
    refine .callback fun clean => ?_
    exact (Call.runAll_sound calls st.fresh ⟨holds, State.sound_empty⟩ clean).state

/-- A call keeps a statement sound if the texts it interpolates are in the class. -/
theorem Call.run_sound (call : Call) (st : Statement d) (sound : st.Sound T)
    (clean : call.Clean T st) : (call.run st).2.Sound T := by
  -- Callbacks need no case here: what they build is promised along with the argument.
  have holds := sound.emptyGroup
  cases call with
  | select columns => exact sound.select clean
  | readFrom source aliasName => exact sound.readFrom (source.promised st holds) clean
  | join table first operator second kind shared => exact sound.join clean
  | union branch kind => exact sound.union (branch.promised st holds) clean _
  | require clause column operator value connector =>
    exact sound.require (column.promised st holds) (operator.promised st holds)
      (value.promised st holds) clean _ _
  | requireMember operator column values connector =>
    exact sound.requireMember (column.promised st holds) (values.promised st holds) clean _
  | group columns => exact sound.group clean
  | order column direction => exact sound.order clean
  | page limit offset => exact sound.page _ _
  | get => exact sound.get
  | first => exact sound.first
  | insert data => exact sound.running (st.state.compileInsert data.toValue) Session.insert
  | update data => exact sound.running (st.state.compileUpdate data.toValue) Session.affect
  | delete => exact sound.running st.state.compileDelete Session.affect
  | _ => exact sound

/-- Calls one after another keep a statement sound if the texts they interpolate are in the
class. -/
theorem Call.runAll_sound (calls : List Call) (st : Statement d) (sound : st.Sound T)
    (clean : Call.AllClean T calls st) : (Call.runAll calls st).2.Sound T := by
  cases calls with
  | nil => exact sound
  | cons call rest =>
    have kept := call.run_sound st sound clean.1
    have later := clean.2
    rw [Call.runAll]
    cases made : call.run st with
    | mk outcome st' =>
      rw [made] at kept later
      cases outcome with
      | error e => exact kept
      | ok answer => exact Call.runAll_sound rest st' kept later

end

/-- A program keeps a statement sound if the texts it interpolates are in the class. -/
theorem Call.attempt_sound (calls : List Call) (st : Statement d) (sound : st.Sound T)
    (clean : Call.ProgramClean T calls st) : (Call.attempt calls st).2.Sound T := by
  induction calls generalizing st with
  | nil => exact sound
  | cons call rest ih => exact ih _ (call.run_sound st sound clean.1) clean.2

end SqlBuilder
