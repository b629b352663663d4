import SqlBuilder.Proofs.Layout

/-!
# The layouts of statements

Every fragment of a statement has a layout: its source, its conditions and clauses, its united
statements and the SELECT as a whole. `Laid` says which layout a fragment has, along the way in
which fragments are made: a derived table, a subquery and a united statement contain the layout of a
SELECT, a group that of a clause. `Laid.written` shows that the layout gives back the text and the
values that compiling gives, `Laid.spaced` that its holes stand apart from the text around them.
-/

set_option autoImplicit false

namespace SqlBuilder

open Layout (ofText listed after)

/-! ## Texts of a state -/

/-- What can be listed are texts, and they are listed with commas between them. -/
theorem of_joinTexts {items : List Value} {listed : String} (h : joinTexts items = .ok listed) :
    ∃ texts, items = texts.map .text ∧ listed = commaSeparated texts := by
  unfold joinTexts at h
  split at h
  · rename_i texts texts_of
    refine ⟨texts, ?_, (Except.ok.inj h).symm⟩
    clear h
    induction items generalizing texts with
    | nil =>
      rw [List.mapM_nil] at texts_of
      rw [← Option.some.inj texts_of, List.map_nil]
    | cons item rest ih =>
      rw [List.mapM_cons] at texts_of
      obtain ⟨first, text_of, later⟩ := Option.bind_eq_some_iff.1 texts_of
      obtain ⟨more, rest_of, same⟩ := Option.bind_eq_some_iff.1 later
      have head : item = .text first := by
        cases item <;> cases text_of
        rfl
      rw [← Option.some.inj same, List.map_cons, head, ← ih more rest_of]
  · cases h

namespace TextClass

variable {T : TextClass}

/-- Texts with a plain separator between them are in the class if all of them are. -/
theorem holds_intercalate {separator : String} (plain : T.Plain separator) {texts : List String}
    (h : ∀ t ∈ texts, T.Holds t) : T.Holds (String.intercalate separator texts) := by
  induction texts with
  | nil => exact T.holds_empty
  | cons first rest ih =>
    cases rest with
    | nil => simpa using h first List.mem_cons_self
    | cons second more =>
      rw [String.intercalate_cons_cons]
      have later := ih fun t ht => h t (List.mem_cons_of_mem _ ht)
      exact T.holds_append (T.holds_append (h first List.mem_cons_self) plain.holds) later

/-- Texts with commas between them are in the class if all of them are. -/
theorem holds_commaSeparated {texts : List String} (h : ∀ t ∈ texts, T.Holds t) :
    T.Holds (commaSeparated texts) :=
  holds_intercalate (plain_of_all (by decide)) h

/-- A row of texts is in the class if all of them are. -/
theorem holds_join {texts : List String} (h : ∀ t ∈ texts, T.Holds t) :
    T.Holds (String.join texts) := by
  induction texts with
  | nil => exact T.holds_empty
  | cons first rest ih =>
    rw [String.join_cons]
    have later := ih fun t ht => h t (List.mem_cons_of_mem _ ht)
    exact T.holds_append (h first List.mem_cons_self) later

/-- Listed texts are in the class if all of them are. -/
theorem holds_of_joinTexts {items : List Value} {listed : String}
    (h : ∀ t, Value.text t ∈ items → T.Holds t) (found : joinTexts items = .ok listed) :
    T.Holds listed := by
  obtain ⟨texts, rfl, rfl⟩ := of_joinTexts found
  apply holds_commaSeparated
  intro t ht
  exact h t (List.mem_map_of_mem ht)

end TextClass

/-- The texts of a state are in a class, apart from those of its source, conditions and unions. -/
structure State.TextsHold (T : TextClass) (s : State) : Prop where
  /-- The selected columns. -/
  columns : ∀ t, Value.text t ∈ s.columns → T.Holds t
  /-- The joins. -/
  joins : ∀ t ∈ s.joins, T.Holds t
  /-- The grouping columns. -/
  grouping : ∀ t, Value.text t ∈ s.grouping → T.Holds t
  /-- The sort keys. -/
  ordering : ∀ t ∈ s.ordering, T.Holds t
  /-- The greatest number of rows. -/
  limit : ∀ v, s.limit = some v → T.Holds v.display
  /-- How many rows to skip. -/
  offset : ∀ v, s.offset = some v → T.Holds v.display

namespace State

variable {T : TextClass} {s : State}

/-- GROUP BY without HAVING. -/
def groupingText (s : State) : Except Error String :=
  if s.grouping.isEmpty then .ok "" else (joinTexts s.grouping).map (" GROUP BY " ++ ·)

/-- The selected columns are in the class. -/
theorem TextsHold.columnsText (h : s.TextsHold T) {columns : String}
    (found : s.columnsText = .ok columns) : T.Holds columns := by
  unfold State.columnsText at found
  split at found
  · rw [← Except.ok.inj found]
    exact (TextClass.plain_of_all (by decide)).holds
  · exact TextClass.holds_of_joinTexts h.columns found

/-- The joins are in the class. -/
theorem TextsHold.joinsText (h : s.TextsHold T) : T.Holds s.joinsText := by
  apply TextClass.holds_join
  intro t ht
  obtain ⟨join, member, rfl⟩ := List.mem_map.1 ht
  exact T.holds_append (TextClass.plain_of_all (by decide)).holds (h.joins join member)

/-- GROUP BY is in the class. -/
theorem TextsHold.groupingText (h : s.TextsHold T) {grouped : String}
    (found : s.groupingText = .ok grouped) : T.Holds grouped := by
  unfold State.groupingText at found
  split at found
  · rw [← Except.ok.inj found]
    exact T.holds_empty
  · cases columns : joinTexts s.grouping with
    | error e => simp [columns, Except.map] at found
    | ok joined =>
      simp only [columns, Except.map, Except.ok.injEq] at found
      rw [← found]
      exact T.holds_append (TextClass.plain_of_all (by decide)).holds
        (TextClass.holds_of_joinTexts h.grouping columns)

/-- ORDER BY is in the class. -/
theorem TextsHold.orderText (h : s.TextsHold T) : T.Holds s.orderText := by
  unfold State.orderText
  split
  · exact T.holds_empty
  · exact T.holds_append (TextClass.plain_of_all (by decide)).holds
      (TextClass.holds_commaSeparated h.ordering)

/-- LIMIT and OFFSET are in the class. -/
theorem TextsHold.pagingText (h : s.TextsHold T) : T.Holds s.pagingText := by
  have words {w : String} (plain : T.Plain w) {v : Value} (holds : T.Holds v.display) :
      T.Holds (w ++ v.display) := T.holds_append plain.holds holds
  unfold State.pagingText
  split
  · exact T.holds_empty
  · rename_i limit found
    apply T.holds_append (words (TextClass.plain_of_all (by decide)) (h.limit limit found))
    split
    · rename_i offset given
      split
      · exact words (TextClass.plain_of_all (by decide)) (h.offset offset given)
      · exact T.holds_empty
    · exact T.holds_empty

end State

/-! ## Fragments -/

/-- What stands between a statement and a united one. -/
def UnionKind.opening : UnionKind → String
  | .plain => " UNION "
  | kind => " UNION " ++ kind.keyword ++ " "

/-- A united statement is written after its kind. -/
theorem UnionBranch.render_eq (branch : UnionBranch) :
    branch.render = branch.kind.opening ++ branch.sql := by
  obtain ⟨kind, sql, bindings⟩ := branch
  cases kind <;> rfl

/-- The branch of a compiled statement. -/
def UnionBranch.ofCompiled (kind : UnionKind) (compiled : Sql.Compiled) : UnionBranch :=
  ⟨kind, compiled.sql, compiled.params⟩

/-- A fragment of a statement. -/
inductive Fragment where
  /-- What a statement reads from. -/
  | source (s : Source)
  /-- A condition. -/
  | condition (c : Condition)
  /-- The conditions of a clause. -/
  | clause (cs : List Condition)
  /-- The united statements. -/
  | unions (bs : List UnionBranch)
  /-- The SELECT as a whole. -/
  | select (s : State)

/-- The layout of a SELECT from the texts of its columns and of GROUP BY and from the layouts of its
source, its conditions and its united statements. -/
def State.layout (s : State) (columns grouped : String)
    (source rows groups unions : Layout) : Layout :=
  ofText "SELECT " ++ (ofText columns ++ (ofText " FROM " ++ (source ++ (ofText s.joinsText ++
    (after " WHERE " rows ++ (ofText grouped ++
      ((if s.writesHaving then after " HAVING " groups else []) ++
        (ofText s.orderText ++ (ofText s.pagingText ++ unions)))))))))

/-- The layout of a column and an operator. -/
def Condition.opening (column operator : String) : Layout :=
  ofText column ++ (ofText " " ++ ofText operator)

/-- The layouts of fragments whose texts are in a class. -/
inductive Laid (T : TextClass) : Fragment → Layout → Prop
  /-- A table. -/
  | table {s : Source} (binds : s.bindings = []) (holds : T.Holds s.sql.display) :
    Laid T (.source s) (ofText s.sql.display)
  /-- A derived table. -/
  | derived {inner : State} {l : Layout} {aliasName : Value} (h : Laid T (.select inner) l)
    (holds : T.Holds aliasName.display) :
    Laid T (.source (.ofCompiled l.compiled aliasName))
      (ofText "(" ++ (l ++ (ofText ") AS " ++ ofText aliasName.display)))
  /-- A comparison with one value. -/
  | simple {connector : Connector} {column operator : String} {v : Value}
    (hc : T.Holds column) (ho : T.Holds operator) :
    Laid T (.condition (.simple connector column operator v))
      (Condition.opening column operator ++ (ofText " " ++ [.hole v]))
  /-- A test for null. -/
  | nullTest {connector : Connector} {column operator : String}
    (hc : T.Holds column) (ho : T.Holds operator) :
    Laid T (.condition (.nullTest connector column operator)) (Condition.opening column operator)
  /-- A membership test. -/
  | membership {connector : Connector} {column operator : String} {vs : List Value}
    (hc : T.Holds column) (ho : T.Holds operator) (some : vs ≠ []) :
    Laid T (.condition (.membership connector column operator vs))
      (Condition.opening column operator ++ (ofText " " ++
        (ofText "(" ++ (listed vs ++ ofText ")"))))
  /-- A test against the rows of a statement. -/
  | subquery {connector : Connector} {column operator : String} {inner : State} {l : Layout}
    (hc : T.Holds column) (ho : T.Holds operator) (h : Laid T (.select inner) l) :
    Laid T (.condition (.subquery connector column operator l.text l.values))
      (Condition.opening column operator ++ (ofText " " ++ (ofText "(" ++ (l ++ ofText ")"))))
  /-- A clause in brackets. -/
  | group {connector : Connector} {cs : List Condition} {l : Layout} (some : cs ≠ [])
    (h : Laid T (.clause cs) l) :
    Laid T (.condition (.group connector ("(" ++ l.text ++ ")") l.values))
      (ofText "(" ++ (l ++ ofText ")"))
  /-- A predicate in brackets in place of an empty clause. -/
  | emptyGroup {connector : Connector} {predicate : String} (holds : T.Holds predicate) :
    Laid T (.condition (.group connector ("(" ++ predicate ++ ")") []))
      (ofText "(" ++ (ofText predicate ++ ofText ")"))
  /-- A clause without conditions. -/
  | noConditions : Laid T (.clause []) []
  /-- A clause with one condition. -/
  | oneCondition {c : Condition} {l : Layout} (h : Laid T (.condition c) l) :
    Laid T (.clause [c]) l
  /-- A clause with one more condition. -/
  | nextCondition {cs : List Condition} {c : Condition} {l m : Layout} (some : cs ≠ [])
    (hs : Laid T (.clause cs) l) (h : Laid T (.condition c) m) :
    Laid T (.clause (cs ++ [c]))
      (l ++ (ofText " " ++ (ofText c.connector.keyword ++ (ofText " " ++ m))))
  /-- No united statements. -/
  | noUnions : Laid T (.unions []) []
  /-- One more united statement. -/
  | nextUnion {bs : List UnionBranch} {kind : UnionKind} {inner : State} {l m : Layout}
    (hs : Laid T (.unions bs) l) (h : Laid T (.select inner) m) :
    Laid T (.unions (bs ++ [.ofCompiled kind m.compiled])) (l ++ (ofText kind.opening ++ m))
  /-- A SELECT. -/
  | select {s : State} {from_ : Source} {columns grouped : String}
    {source rows groups unions : Layout} (texts : s.TextsHold T)
    (named : s.columnsText = .ok columns) (keyed : s.groupingText = .ok grouped)
    (paged : Value.requireWritable s.shownPaging = .ok ())
    (reads : s.source = some from_) (hsource : Laid T (.source from_) source)
    (hrows : Laid T (.clause s.rowConditions) rows)
    (hgroups : Laid T (.clause s.groupConditions) groups)
    (hunions : Laid T (.unions s.unions) unions) :
    Laid T (.select s) (s.layout columns grouped source rows groups unions)

/-! ## Text and values -/

/-- A layout gives the text and the values of a fragment. -/
def Fragment.Written : Fragment → Layout → Prop
  | source s, l => s.sql.display = l.text ∧ s.bindings = l.values
  | condition c, l => c.render = l.text ∧ c.params = l.values ∧ l ≠ []
  | clause cs, l =>
    Condition.renderAll cs = l.text ∧ Condition.paramsAll cs = l.values ∧ (l = [] ↔ cs = [])
  | unions bs, l =>
    String.join (bs.map UnionBranch.render) = l.text ∧ bs.flatMap UnionBranch.bindings = l.values
  | select s, l => s.compile = .ok l.compiled

/-- A text is no empty layout before a layout that is not empty. -/
theorem Layout.append_ne_nil {a b : Layout} (h : b ≠ []) : a ++ b ≠ [] :=
  fun empty => h (List.append_eq_nil_iff.1 empty).2

/-- GROUP BY and HAVING are written one after the other. -/
theorem State.groupText_eq {s : State} {grouped : String} (h : s.groupingText = .ok grouped) :
    s.groupText = .ok (grouped ++
      if s.writesHaving then unlessEmpty " HAVING " (s.clauseText .groups) else "") := by
  unfold groupingText at h
  unfold groupText writesHaving
  split at h
  · rename_i none
    rw [if_pos none, ← Except.ok.inj h]
    simp [none]
  · rename_i some
    rw [if_neg some]
    have filled : s.grouping.isEmpty = false := Bool.eq_false_iff.2 some
    cases joined : joinTexts s.grouping with
    | error e => simp [joined, Except.map] at h
    | ok columns =>
      simp only [joined, Except.map, Except.ok.injEq] at h
      rw [← h, filled]
      cases conditions : s.groupConditions with
      | nil => simp [Except.map, clauseText, State.conditions, conditions, unlessEmpty]
      | cons c cs => simp [Except.map]

/-- The text and the values of a SELECT come from its layout. -/
theorem State.compile_layout {s : State} {from_ : Source} {columns grouped : String}
    {source rows groups unions : Layout}
    (named : s.columnsText = .ok columns) (keyed : s.groupingText = .ok grouped)
    (paged : Value.requireWritable s.shownPaging = .ok ())
    (reads : s.source = some from_) (hsource : (Fragment.source from_).Written source)
    (hrows : (Fragment.clause s.rowConditions).Written rows)
    (hgroups : (Fragment.clause s.groupConditions).Written groups)
    (hunions : (Fragment.unions s.unions).Written unions) :
    s.compile = .ok (s.layout columns grouped source rows groups unions).compiled := by
  obtain ⟨sourceText, sourceValues⟩ := hsource
  obtain ⟨rowText, rowValues, -⟩ := hrows
  obtain ⟨groupText, groupValues, -⟩ := hgroups
  obtain ⟨unionText, unionValues⟩ := hunions
  have where_ : s.whereText = unlessEmpty " WHERE " rows.text := by
    rw [whereText, clauseText, conditions, rowText]
  have having_ : (if s.writesHaving then unlessEmpty " HAVING " (s.clauseText .groups) else "") =
      (if s.writesHaving then after " HAVING " groups else []).text := by
    rw [clauseText, conditions, groupText]
    split
    · rw [Layout.text_after]
    · rfl
  have bound : (if s.writesHaving then s.clauseParams .groups else []) =
      (if s.writesHaving then after " HAVING " groups else []).values := by
    rw [clauseParams, conditions, groupValues]
    split
    · rw [Layout.values_after]
    · rfl
  have text : s.selectText =
      .ok (s.layout columns grouped source rows groups unions).text := by
    simp only [selectText, requireSource, reads, named, groupText_eq keyed, paged, bind,
      Except.bind, sourceText, where_, having_, unionsText, unionText, layout, Layout.text_append,
      Layout.text_ofText, Layout.text_after, String.append_assoc]
  have values : s.selectParams =
      (s.layout columns grouped source rows groups unions).values := by
    have read : s.sourceBindings = source.values := by
      rw [sourceBindings, reads]
      exact sourceValues
    have met : s.clauseParams .rows = rows.values := rowValues
    have united : s.unionBindings = unions.values := unionValues
    simp only [selectParams, read, met, bound, united, layout, Layout.values_append,
      Layout.values_ofText, Layout.values_after, List.nil_append, List.append_assoc]
  rw [compile, text, values]
  rfl

/-- A space and an opening bracket before a text. -/
theorem space_bracket (t : String) : " (" ++ t = " " ++ ("(" ++ t) := by
  rw [← String.append_assoc]
  rfl

variable {T : TextClass}

/-- A layout gives the text and the values of its fragment. -/
theorem Laid.written {f : Fragment} {l : Layout} (h : Laid T f l) : f.Written l := by
  induction h with
  | table binds holds => exact ⟨(Layout.text_ofText _).symm, by simpa using binds⟩
  | @derived inner l aliasName h holds ih =>
    constructor
    · simp [Source.ofCompiled, Layout.compiled, Value.display_text, String.append_assoc]
    · simp [Source.ofCompiled, Layout.compiled]
  | simple hc ho =>
    refine ⟨?_, ?_, Layout.append_ne_nil (Layout.append_ne_nil (List.cons_ne_nil _ _))⟩
    · simp [Condition.render, Condition.opening, String.append_assoc]
    · simp [Condition.params, Condition.opening]
  | nullTest hc ho =>
    refine ⟨?_, ?_, ?_⟩
    · simp [Condition.render, Condition.opening, String.append_assoc]
    · simp [Condition.params, Condition.opening]
    · exact Layout.append_ne_nil (List.cons_ne_nil _ _)
  | @membership _ column operator vs hc ho some =>
    refine ⟨?_, ?_, Layout.append_ne_nil (List.cons_ne_nil _ _)⟩
    · simp [Condition.render, Condition.opening, Layout.text_listed, String.append_assoc]
      exact space_bracket _
    · simp [Condition.params, Condition.opening, Layout.values_listed]
  | subquery hc ho h ih =>
    refine ⟨?_, ?_, Layout.append_ne_nil (List.cons_ne_nil _ _)⟩
    · simp [Condition.render, Condition.opening, String.append_assoc]
      exact space_bracket _
    · simp [Condition.params, Condition.opening]
  | group some h ih =>
    refine ⟨?_, ?_, List.cons_ne_nil _ _⟩
    · simp [Condition.render, String.append_assoc]
    · simp [Condition.params]
  | emptyGroup holds =>
    refine ⟨?_, ?_, List.cons_ne_nil _ _⟩
    · simp [Condition.render, String.append_assoc]
    · simp [Condition.params]
  | noConditions => exact ⟨rfl, rfl, by simp⟩
  | oneCondition h ih =>
    obtain ⟨text, values, filled⟩ := ih
    refine ⟨?_, ?_, by simp [filled]⟩
    · simp [Condition.renderAll, text]
    · simp [Condition.paramsAll, values]
  | @nextCondition cs c l m some hs h ihs ih =>
    obtain ⟨texts, valuess, -⟩ := ihs
    obtain ⟨text, values, filled⟩ := ih
    obtain ⟨first, rest, rfl⟩ := List.exists_cons_of_ne_nil some
    refine ⟨?_, ?_, ?_⟩
    · rw [Condition.renderAll_append, texts]
      simp [Condition.renderNext, text, String.append_assoc]
    · rw [Condition.paramsAll_append, valuess]
      simp [Condition.paramsAll, values]
    · simp [filled]
  | noUnions => exact ⟨rfl, rfl⟩
  | nextUnion hs h ihs ih =>
    obtain ⟨texts, valuess⟩ := ihs
    constructor
    · simp [texts, UnionBranch.render_eq, UnionBranch.ofCompiled, Layout.compiled]
    · simp [valuess, UnionBranch.ofCompiled, Layout.compiled]
  | select texts named keyed paged reads hsource hrows hgroups hunions ihs ihr ihg ihu =>
    exact State.compile_layout named keyed paged reads ihs ihr ihg ihu

/-! ## Spacing -/

open Layout (Closing Spaced closing_nil closing_ofText closing_after spaced_ofText spaced_nil)

/-- A text that is empty or begins with a space can follow a hole. -/
theorem closing_of_leading_space {s : String} (h : s = "" ∨ ∃ cs, s.toList = ' ' :: cs)
    {l : Layout} (closing : Closing l) : Closing (ofText s ++ l) := by
  rcases h with rfl | ⟨cs, leading⟩
  · exact closing
  · exact closing_ofText leading (.inl rfl) l

/-- Everything after the columns of a SELECT can follow a hole. -/
theorem State.leading_space_joinsText (s : State) :
    s.joinsText = "" ∨ ∃ cs, s.joinsText.toList = ' ' :: cs := by
  unfold joinsText
  cases s.joins with
  | nil => exact .inl rfl
  | cons first rest =>
    rw [List.map_cons, String.join_cons, String.toList_append, String.toList_append]
    exact .inr ⟨_, rfl⟩

/-- GROUP BY begins with a space. -/
theorem State.leading_space_groupingText {s : State} {grouped : String}
    (h : s.groupingText = .ok grouped) : grouped = "" ∨ ∃ cs, grouped.toList = ' ' :: cs := by
  unfold groupingText at h
  split at h
  · exact .inl (Except.ok.inj h).symm
  · cases joined : joinTexts s.grouping with
    | error e => simp [joined, Except.map] at h
    | ok columns =>
      simp only [joined, Except.map, Except.ok.injEq] at h
      rw [← h, String.toList_append]
      exact .inr ⟨_, rfl⟩

/-- ORDER BY begins with a space. -/
theorem State.leading_space_orderText (s : State) :
    s.orderText = "" ∨ ∃ cs, s.orderText.toList = ' ' :: cs := by
  unfold orderText
  split
  · exact .inl rfl
  · rw [String.toList_append]
    exact .inr ⟨_, rfl⟩

/-- LIMIT begins with a space. -/
theorem State.leading_space_pagingText (s : State) :
    s.pagingText = "" ∨ ∃ cs, s.pagingText.toList = ' ' :: cs := by
  unfold pagingText
  split
  · exact .inl rfl
  · rw [String.toList_append, String.toList_append]
    exact .inr ⟨_, rfl⟩

/-- A kind of union begins with a space. -/
theorem UnionKind.leading_space_opening (kind : UnionKind) :
    ∃ cs, kind.opening.toList = ' ' :: cs := by
  cases kind <;> exact ⟨_, rfl⟩

/-- United statements can follow a hole. -/
theorem Laid.closing_unions {bs : List UnionBranch} {l : Layout} (h : Laid T (.unions bs) l) :
    Closing l := by
  generalize hf : Fragment.unions bs = f at h
  induction h generalizing bs with
  | noUnions => exact closing_nil
  | @nextUnion _ kind _ _ _ hs h ihs ih =>
    obtain ⟨cs, leading⟩ := kind.leading_space_opening
    exact (ihs rfl).append (closing_ofText leading (.inl rfl) _)
  | _ => cases hf

/-- A column and an operator before a spaced layout leave it spaced. -/
theorem Layout.Spaced.after_opening {l : Layout} (h : Spaced l) (column operator : String) :
    Spaced (Condition.opening column operator ++ l) := by
  rw [Condition.opening, List.append_assoc, List.append_assoc]
  exact ((h.after_text operator).after_text " ").after_text column

/-- A SELECT is spaced if its parts are. -/
theorem State.spaced_layout {s : State} {columns grouped : String}
    {source rows groups unions : Layout} (keyed : s.groupingText = .ok grouped)
    (hsource : Spaced source) (hrows : Spaced rows) (hgroups : Spaced groups)
    (hunions : Spaced unions) (united : Closing unions) :
    Spaced (s.layout columns grouped source rows groups unions) := by
  have having_ : Spaced (if s.writesHaving then after " HAVING " groups else []) := by
    split
    · exact hgroups.after _
    · exact spaced_nil
  have having_closes : Closing (if s.writesHaving then after " HAVING " groups else []) := by
    split
    · exact closing_after rfl groups
    · exact closing_nil
  -- from the end of the statement to its beginning: what follows a clause can follow a hole
  have paging := hunions.after_text s.pagingText
  have paging_closes := closing_of_leading_space s.leading_space_pagingText united
  have order := paging.after_text s.orderText
  have order_closes := closing_of_leading_space s.leading_space_orderText paging_closes
  have grouping := (having_.append order order_closes).after_text grouped
  have grouping_closes := closing_of_leading_space (leading_space_groupingText keyed)
    (having_closes.append order_closes)
  have where_ := (hrows.after " WHERE ").append grouping grouping_closes
  have where_closes : Closing (after " WHERE " rows) := closing_after rfl rows
  have joins := where_.after_text s.joinsText
  have joins_closes := closing_of_leading_space s.leading_space_joinsText
    (where_closes.append grouping_closes)
  exact (((hsource.append joins joins_closes).after_text " FROM ").after_text columns).after_text _

/-- The holes of a layout stand apart from the text around them. -/
theorem Laid.spaced {f : Fragment} {l : Layout} (h : Laid T f l) : Spaced l := by
  induction h with
  | table binds holds => exact spaced_ofText _
  | derived h holds ih =>
    have closing := closing_ofText (s := ") AS ") rfl (.inr (.inr rfl))
    exact (ih.append ((spaced_ofText _).after_text _) (closing _)).after_text "("
  | simple hc ho => exact (Layout.spaced_hole _).after_opening _ _
  | nullTest hc ho =>
    have text := spaced_nil.after_opening
    simpa using text _ _
  | membership hc ho some => exact ((Layout.spaced_listed _).after_text " ").after_opening _ _
  | subquery hc ho h ih => exact (ih.bracketed.after_text " ").after_opening _ _
  | group some h ih => exact ih.bracketed
  | emptyGroup holds => exact (spaced_ofText _).bracketed
  | noConditions => exact spaced_nil
  | oneCondition h ih => exact ih
  | nextCondition some hs h ihs ih =>
    exact ihs.append (((ih.after_text " ").after_text _).after_text " ")
      (closing_ofText rfl (.inl rfl) _)
  | noUnions => exact spaced_nil
  | @nextUnion _ kind _ _ _ hs h ihs ih =>
    obtain ⟨cs, leading⟩ := kind.leading_space_opening
    exact ihs.append (ih.after_text _) (closing_ofText leading (.inl rfl) _)
  | select texts named keyed paged reads hsource hrows hgroups hunions ihs ihr ihg ihu =>
    exact State.spaced_layout keyed ihs ihr ihg ihu hunions.closing_unions

end SqlBuilder
