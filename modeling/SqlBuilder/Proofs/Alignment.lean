import SqlBuilder.Driver.Recording
import SqlBuilder.Proofs.Composition
import SqlBuilder.Proofs.Neutral

/-!
# Placeholders and values

When the texts that a program interpolates are neutral, the placeholders of what it compiles are
exactly the holes of its layout, so there is one value for each placeholder, in the same order. This
holds whatever the calls are, in whatever order they are made, how deep callbacks are nested and
which calls fail. HAVING is where its values are: both are written, or neither.
-/

set_option autoImplicit false

namespace SqlBuilder

open Layout (ofText listed after)
open Sql (Compiled Neutral Quoting neutralTexts placeholderPositions placeholdersFrom)

/-! ## The scan of a layout -/

namespace Layout

/-- The scan of a layout finds exactly its holes and ends outside quotes. -/
structure Aligned (l : Layout) : Prop where
  /-- The placeholders are the holes. -/
  found : ∀ offset, placeholdersFrom none offset l.chars = offsetsFrom offset l
  /-- The scan ends outside quotes. -/
  closed : Quoting.after none l.chars = none

/-- The empty layout is aligned. -/
theorem aligned_nil : Aligned [] :=
  ⟨fun _ => rfl, rfl⟩

/-- A hole is aligned. -/
theorem aligned_hole (v : Value) : Aligned [.hole v] :=
  ⟨fun _ => rfl, rfl⟩

/-- A neutral text is aligned. -/
theorem aligned_ofText {s : String} (h : Neutral s) : Aligned (ofText s) := by
  constructor
  · intro offset
    rw [chars_ofText, offsetsFrom_ofText]
    exact Sql.placeholdersFrom_eq_nil h.1 offset
  · rw [chars_ofText]
    exact h.2

/-- Aligned layouts in a row are aligned. -/
theorem Aligned.append {a b : Layout} (ha : Aligned a) (hb : Aligned b) : Aligned (a ++ b) := by
  constructor
  · intro offset
    rw [chars_append, Sql.placeholdersFrom_append, ha.closed, ha.found, hb.found,
      offsetsFrom_append, chars, List.length_map]
  · rw [chars_append, Quoting.after_append, ha.closed, hb.closed]

/-- Neutral words before an aligned layout leave it aligned. -/
theorem Aligned.after {l : Layout} (h : Aligned l) {words : String} (hw : Neutral words) :
    Aligned (after words l) := by
  rw [Layout.after]
  split
  · exact aligned_nil
  · exact (aligned_ofText hw).append h

/-- Brackets around an aligned layout leave it aligned. -/
theorem Aligned.bracketed {l : Layout} (h : Aligned l) :
    Aligned (ofText "(" ++ (l ++ ofText ")")) :=
  (aligned_ofText (by decide)).append (h.append (aligned_ofText (by decide)))

/-- Listed holes are aligned. -/
theorem aligned_listed (vs : List Value) : Aligned (listed vs) := by
  induction vs with
  | nil => exact aligned_nil
  | cons v rest ih =>
    cases rest with
    | nil => exact aligned_hole v
    | cons w more =>
      have comma : Aligned (ofText ", ") := aligned_ofText (by decide)
      exact ((aligned_hole v).append comma).append ih

/-- A column and an operator are aligned if they are neutral. -/
theorem aligned_opening {column operator : String} (hc : Neutral column) (ho : Neutral operator) :
    Aligned (Condition.opening column operator) :=
  (aligned_ofText hc).append ((aligned_ofText (by decide)).append (aligned_ofText ho))

/-- The placeholders of an aligned layout are at the offsets of its holes. -/
theorem Aligned.placeholderPositions {l : Layout} (h : Aligned l) :
    Sql.placeholderPositions l.text = l.offsets := by
  rw [Sql.placeholderPositions, text, String.toList_ofList, h.found, offsets]

end Layout

open Layout (Aligned aligned_nil aligned_hole aligned_ofText aligned_listed aligned_opening)

/-- What stands between a statement and a united one is neutral. -/
theorem UnionKind.neutral_opening (kind : UnionKind) : Neutral kind.opening := by
  cases kind <;> decide

/-- The keyword of a connector is neutral. -/
theorem Connector.neutral_keyword (connector : Connector) : Neutral connector.keyword := by
  cases connector <;> decide

/-- The scan of what is laid out with neutral texts finds exactly the holes. -/
theorem Laid.aligned {f : Fragment} {l : Layout} (h : Laid neutralTexts f l) : Aligned l := by
  have space : Aligned (ofText " ") := aligned_ofText (by decide)
  induction h with
  | table binds holds => exact aligned_ofText holds
  | derived h holds ih =>
    have closing : Aligned (ofText ") AS ") := aligned_ofText (by decide)
    exact (aligned_ofText (by decide)).append (ih.append (closing.append (aligned_ofText holds)))
  | simple hc ho => exact (aligned_opening hc ho).append (space.append (aligned_hole _))
  | nullTest hc ho => exact aligned_opening hc ho
  | membership hc ho some =>
    exact (aligned_opening hc ho).append (space.append (aligned_listed _).bracketed)
  | subquery hc ho h ih => exact (aligned_opening hc ho).append (space.append ih.bracketed)
  | group some h ih => exact ih.bracketed
  | emptyGroup holds => exact (aligned_ofText holds).bracketed
  | noConditions => exact aligned_nil
  | oneCondition h ih => exact ih
  | @nextCondition _ c _ _ some hs h ihs ih =>
    have keyword := aligned_ofText c.connector.neutral_keyword
    exact ihs.append (space.append (keyword.append (space.append ih)))
  | noUnions => exact aligned_nil
  | @nextUnion _ kind _ _ _ hs h ihs ih =>
    exact ihs.append ((aligned_ofText kind.neutral_opening).append ih)
  | @select s _ columns grouped source rows groups unions texts named keyed paged reads hsource
      hrows hgroups hunions ihs ihr ihg ihu =>
    -- The parts are put together from the right, each behind the word that opens it.
    have having_ : Aligned (if s.writesHaving then after " HAVING " groups else []) := by
      split
      · exact ihg.after (by decide)
      · exact aligned_nil
    have paging := (aligned_ofText texts.pagingText).append ihu
    have tail := (aligned_ofText texts.orderText).append paging
    have grouping := (aligned_ofText (texts.groupingText keyed)).append (having_.append tail)
    have where_ : Aligned (after " WHERE " rows) := ihr.after (by decide)
    have joins := (aligned_ofText texts.joinsText).append (where_.append grouping)
    have from_ : Aligned (ofText " FROM ") := aligned_ofText (by decide)
    have columns := (aligned_ofText (texts.columnsText named)).append
      (from_.append (ihs.append joins))
    exact (aligned_ofText (by decide)).append columns

/-! ## HAVING -/

/-- Where HAVING stands in the layout of a SELECT: between the part that ends with GROUP BY and the
part that begins with ORDER BY, with its text and its values, or with neither. -/
structure HavingAt (s : State) (before having_ behind : Layout) : Prop where
  /-- The text before it. -/
  textBefore : ∃ from_ columns grouped, s.source = some from_ ∧ s.columnsText = .ok columns ∧
    s.groupingText = .ok grouped ∧
    before.text = "SELECT " ++ columns ++ " FROM " ++ from_.sql.display ++ s.joinsText ++
      s.whereText ++ grouped
  /-- The values before it. -/
  valuesBefore : before.values = s.sourceBindings ++ s.clauseParams .rows
  /-- Its text. -/
  text : having_.text = if s.writesHaving then " HAVING " ++ s.clauseText .groups else ""
  /-- Its values. -/
  values : having_.values = if s.writesHaving then s.clauseParams .groups else []
  /-- The text behind it. -/
  textBehind : behind.text = s.orderText ++ s.pagingText ++ s.unionsText
  /-- The values behind it. -/
  valuesBehind : behind.values = s.unionBindings

/-- The layout of a SELECT has a place for HAVING. -/
theorem Laid.havingAt {T : TextClass} {s : State} {l : Layout} (h : Laid T (.select s) l) :
    ∃ before having_ behind,
      l = before ++ having_ ++ behind ∧ HavingAt s before having_ behind := by
  cases h with
  | @select _ from_ columns grouped source rows groups unions texts named keyed paged reads hsource
      hrows hgroups hunions =>
    obtain ⟨sourceText, sourceValues⟩ := hsource.written
    obtain ⟨rowText, rowValues, -⟩ := hrows.written
    obtain ⟨groupText, groupValues, none_iff⟩ := hgroups.written
    obtain ⟨unionText, unionValues⟩ := hunions.written
    refine ⟨ofText "SELECT " ++ (ofText columns ++ (ofText " FROM " ++ (source ++
        (ofText s.joinsText ++ (after " WHERE " rows ++ ofText grouped))))),
      if s.writesHaving then after " HAVING " groups else [],
      ofText s.orderText ++ (ofText s.pagingText ++ unions), ?_, ?_⟩
    · simp only [State.layout, List.append_assoc]
    · refine ⟨⟨from_, columns, grouped, reads, named, keyed, ?_⟩, ?_, ?_, ?_, ?_, ?_⟩
      · simp [sourceText, State.whereText, State.clauseText, State.conditions, rowText,
          Layout.text_after, String.append_assoc]
      · simp [State.sourceBindings, reads, sourceValues, State.clauseParams, State.conditions,
          rowValues, Layout.values_after]
      · split
        · rename_i writes
          have filled : groups.text.isEmpty = false := by
            rw [Layout.text_isEmpty, Bool.eq_false_iff]
            intro empty
            have none := none_iff.1 (List.isEmpty_iff.1 empty)
            simp [State.writesHaving, none] at writes
          rw [Layout.text_after, unlessEmpty, filled, State.clauseText, State.conditions, groupText]
          rfl
        · rfl
      · split
        · rw [Layout.values_after, State.clauseParams, State.conditions, groupValues]
        · rfl
      · simp [unionText, State.unionsText, String.append_assoc]
      · simp [unionValues, State.unionBindings]

/-! ## Programs -/

variable {d : Driver}

/-- What a program with neutral texts compiles is laid out: text and holes alternate, the
placeholders are the holes, in order, and the values are those in the holes. HAVING is written
exactly when its values are bound. -/
theorem placeholders_match_values (options : Options) (session : Option (Session d))
    (program : List Call) (emptyGroup : Neutral options.emptyGroup)
    (clean : Call.ProgramClean neutralTexts program (.blank options session)) {compiled : Compiled}
    (compiles :
      (Call.attempt program (.blank options session)).2.state.compile = .ok compiled) :
    ∃ l, Laid neutralTexts (.select (Call.attempt program (.blank options session)).2.state) l ∧
      compiled.sql = l.text ∧ placeholderPositions compiled.sql = l.offsets ∧
      compiled.params = l.values ∧ compiled.placeholderCount = compiled.params.length ∧
      ∃ before having_ behind, l = before ++ having_ ++ behind ∧
        HavingAt (Call.attempt program (.blank options session)).2.state
          before having_ behind := by
  have sound := Call.attempt_sound program (.blank options session)
    ⟨emptyGroup, State.sound_empty⟩ clean
  obtain ⟨l, laid, rfl⟩ := sound.state.laid compiles
  have positions : placeholderPositions l.compiled.sql = l.offsets :=
    laid.aligned.placeholderPositions
  refine ⟨l, laid, rfl, positions, rfl, ?_, laid.havingAt⟩
  rw [Compiled.placeholderCount, positions]
  exact Layout.length_offsetsFrom 0 l

/-- A program that reads from a derived table, has a group, HAVING and a union, shows a question
mark in a literal, binds one, and fails once. -/
def reportProgram : List Call :=
  let text (s : String) : Arg := .value (.text s)
  [.select [text "a", text "'b?' AS b"],
    .readFrom (.callback
      [.readFrom (text "t x") (.value .null),
        .require .rows (text "a") (text ">") (.value (.int 1)) (text "and")]) (text "d"),
    .require .rows (.callback
      [.require .rows (text "b") (text "IS NOT NULL") (.value .omitted) (text "and"),
        .requireMember "IN" (text "c") (.value (.series .list [.int 2, .int 3])) (text "or")])
      (.value .omitted) (.value .omitted) (text "AND"),
    .readFrom (text "again") (.value .null),
    .group [text "a"],
    .require .groups (text "COUNT(*)") (text ">") (.value (.int 4)) (text "AND"),
    .union (.callback
      [.readFrom (text "w") (.value .null),
        .require .rows (text "e") (text "?") (.value .omitted) (text "AND")]) (text " all ")]

/-- The texts that the program interpolates are neutral. -/
theorem clean_reportProgram : Call.ProgramClean (d := Recording.driver) neutralTexts reportProgram
    (.blank {} none) := by
  have field {s : String} (h : Neutral s) : neutralTexts.FieldHolds (.text s) :=
    TextClass.fieldHolds_text h
  have derived : neutralTexts.FieldHolds (.text "a") ∧ neutralTexts.FieldHolds (.text ">") :=
    ⟨field (by decide), field (by decide)⟩
  have notNull : neutralTexts.FieldHolds (.text "b") ∧
      ∀ v, some (Value.text "IS NOT NULL") = some v →
        neutralTexts.FieldHolds v ∨ ∃ s, v = .text s ∧ NullTest.isBare s = true :=
    ⟨field (by decide), fun v given => .inl (Option.some.inj given ▸ field (by decide))⟩
  refine ⟨?_, ⟨⟨fun _ => ?_, derived, trivial⟩, ?_⟩, ⟨notNull, ?_, trivial⟩, fun _ => ?_, ?_, ?_,
    ⟨fun _ => ?_, ?_, trivial⟩, trivial⟩
  · intro t ht
    have listed : Value.text t ∈ [Value.text "a", Value.text "'b?' AS b"] := ht
    simp only [List.mem_cons, Value.text.injEq, List.not_mem_nil, or_false] at listed
    rcases listed with rfl | rfl
    · exact (by decide : Neutral "a")
    · exact (by decide : Neutral "'b?' AS b")
  · exact (by decide : Neutral "t x")
  · exact (by decide : Neutral "d")
  · intro items iterated
    rw [← Except.ok.inj iterated]
    exact ⟨field (by decide), field (by decide)⟩
  · exact (by decide : Neutral "again")
  · intro t ht
    have listed : Value.text t ∈ [Value.text "a"] := ht
    simp only [List.mem_cons, Value.text.injEq, List.not_mem_nil, or_false] at listed
    rw [listed]
    exact (by decide : Neutral "a")
  · exact ⟨field (by decide), field (by decide)⟩
  · exact (by decide : Neutral "w")
  · exact ⟨field (by decide), fun s h => by cases h⟩

/-- The program compiles, and its placeholders are as many as its values. -/
theorem placeholders_match_values_reportProgram :
    ∃ compiled, (Call.attempt (d := Recording.driver) reportProgram
        (.blank {} none)).2.state.compile = .ok compiled ∧
      compiled.sql = "SELECT a, 'b?' AS b FROM (SELECT * FROM t x WHERE a > ?) AS d " ++
        "WHERE (b IS NOT NULL OR c IN (?, ?)) GROUP BY a HAVING COUNT(*) > ? " ++
        "UNION ALL SELECT * FROM w WHERE e = ?" ∧
      compiled.placeholderCount = compiled.params.length := by
  have text : (Call.attempt (d := Recording.driver) reportProgram
      (.blank {} none)).2.state.compile.toOption.map Compiled.sql =
      some ("SELECT a, 'b?' AS b FROM (SELECT * FROM t x WHERE a > ?) AS d " ++
        "WHERE (b IS NOT NULL OR c IN (?, ?)) GROUP BY a HAVING COUNT(*) > ? " ++
        "UNION ALL SELECT * FROM w WHERE e = ?") := by
    decide +kernel
  cases compiles : (Call.attempt (d := Recording.driver) reportProgram
      (.blank {} none)).2.state.compile with
  | error e =>
    rw [compiles] at text
    cases text
  | ok compiled =>
    rw [compiles] at text
    have sql := Option.some.inj text
    obtain ⟨l, -, -, -, -, count, -⟩ :=
      placeholders_match_values {} none reportProgram (by decide) clean_reportProgram compiles
    exact ⟨compiled, rfl, sql, count⟩

end SqlBuilder
