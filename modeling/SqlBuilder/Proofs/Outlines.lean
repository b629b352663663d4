import SqlBuilder.Proofs.Composition
import SqlBuilder.Proofs.Growth
import SqlBuilder.Proofs.Neutral
import SqlBuilder.Proofs.Nesting

/-!
# Outlines of states

The texts in a state do not say what they were made of. An `Outline` of a state keeps its source,
its clauses and its unions as nestings: a derived table, a subquery and a group are put in brackets
there as the nestings of the statements that they came from. `Outline.grow` follows what a call does
to a state. `Outline.Draws` says that an outline gives back the texts of a state, is put together
from balanced texts, and has all that the state puts in brackets; `Outline.Draws.grow` says that
calls keep it so.
-/

set_option autoImplicit false

namespace SqlBuilder

open Sql (Compiled placeholders)
open Nesting (plain brackets shows_plain)

/-! ## What is put in brackets -/

/-- A derived table puts its statement in brackets. -/
def Source.Brackets (source : Source) (part : String) : Prop :=
  source.derived = true ∧
    source.sql.display = "(" ++ part ++ ")" ++ (" AS " ++ source.aliasName.display)

/-- A test against the rows of a statement puts the statement in brackets, and a group its
clause. -/
def Condition.Brackets : Condition → String → Prop
  | .subquery _ _ _ sql _, part => part = sql
  | .group _ sql _, part => sql = "(" ++ part ++ ")"
  | _, _ => False

/-- A clause puts in brackets what its conditions do. -/
def State.ClauseBrackets (s : State) (clause : Clause) (part : String) : Prop :=
  ∃ c ∈ s.conditions clause, c.Brackets part

/-- A SELECT puts in brackets what its source, its WHERE, and its HAVING if it is written, do. -/
def State.Brackets (s : State) (part : String) : Prop :=
  (∃ source, s.source = some source ∧ source.Brackets part) ∨ s.ClauseBrackets .rows part ∨
    s.writesHaving = true ∧ s.ClauseBrackets .groups part

/-! ## Outlines -/

/-- The parts of a state as nestings. -/
structure Outline where
  /-- The source. -/
  source : Nesting := plain ""
  /-- The conditions of each clause. -/
  clause : Clause → Nesting := fun _ => plain ""
  /-- The united statements. -/
  unions : Nesting := plain ""

/-- The nesting of the SELECT of a state, if it compiles. -/
def Outline.select (o : Outline) (s : State) : Nesting :=
  match s.columnsText, s.groupingText with
  | .ok columns, .ok grouped =>
    plain ("SELECT " ++ columns ++ " FROM ") ++ o.source ++ plain s.joinsText ++
      (o.clause .rows).after " WHERE " ++ plain grouped ++
      (if s.writesHaving then (o.clause .groups).after " HAVING " else plain "") ++
      plain (s.orderText ++ s.pagingText) ++ o.unions
  | _, _ => plain ""

/-- The state that a callback builds, with its outline. -/
structure Built where
  /-- The state. -/
  state : State
  /-- Its outline. -/
  outline : Outline

/-- The nesting of a source: what a callback built is in brackets. -/
def Source.nesting (source : Source) (built : Option Built) : Nesting :=
  match source.derived, built with
  | true, some b =>
    brackets (b.outline.select b.state) ++ plain (" AS " ++ source.aliasName.display)
  | _, _ => plain source.sql.display

/-- The nesting of a clause in a group; a predicate stands for an empty one. -/
def Built.group (b : Built) (emptyGroup : String) (clause : Clause) : Nesting :=
  if (b.outline.clause clause).text.isEmpty then plain emptyGroup else b.outline.clause clause

/-- The nesting of a condition: what a callback built is in brackets. -/
def Condition.nesting (c : Condition) (emptyGroup : String) (clause : Clause)
    (built : Option Built) : Nesting :=
  match c, built with
  | .subquery _ column operator _ _, some b =>
    plain (column ++ " " ++ operator ++ " ") ++ brackets (b.outline.select b.state)
  | .group _ _ _, some b => brackets (b.group emptyGroup clause)
  | c, _ => plain c.render

namespace Outline

/-- The source of a state that a call leads to. -/
def growSource (o : Outline) (built : Option Built) (s s' : State) : Nesting :=
  match s.source, s'.source with
  | none, some source => source.nesting built
  | _, _ => o.source

/-- A clause of a state that a call leads to. -/
def growClause (o : Outline) (emptyGroup : String) (built : Option Built) (s s' : State)
    (clause : Clause) : Nesting :=
  match (s'.conditions clause)[(s.conditions clause).length]? with
  | none => o.clause clause
  | some c =>
    if (s.conditions clause).isEmpty then c.nesting emptyGroup clause built
    else
      o.clause clause ++
        (plain (" " ++ c.connector.keyword ++ " ") ++ c.nesting emptyGroup clause built)

/-- The unions of a state that a call leads to. -/
def growUnions (o : Outline) (built : Option Built) (s s' : State) : Nesting :=
  match s'.unions[s.unions.length]?, built with
  | some branch, some b => o.unions ++ (plain branch.kind.opening ++ b.outline.select b.state)
  | _, _ => o.unions

/-- The outline of the state that a call leads to from another one, with what its callback
builds. -/
def grow (o : Outline) (emptyGroup : String) (built : Option Built) (s s' : State) : Outline where
  source := o.growSource built s s'
  clause := o.growClause emptyGroup built s s'
  unions := o.growUnions built s s'

/-- An outline gives the parts of a state with what they put in brackets. -/
structure Draws (o : Outline) (s : State) : Prop where
  /-- The source. -/
  source : ∀ source, s.source = some source → o.source.Shows source.sql.display source.Brackets
  /-- The clauses. -/
  clause : ∀ clause, (o.clause clause).Shows (s.clauseText clause) (s.ClauseBrackets clause)
  /-- The united statements. -/
  unions : o.unions.Shows s.unionsText fun _ => False

/-- The empty outline draws the fresh state. -/
theorem draws_empty : ({} : Outline).Draws {} where
  source := nofun
  clause clause := by
    cases clause <;> exact (shows_plain (by decide : Balanced "")).mono nofun
  unions := shows_plain (by decide : Balanced "")

/-- The outline of a state that compiles shows the compiled text. -/
theorem Draws.select {o : Outline} {s : State} (draws : o.Draws s)
    (texts : s.TextsHold balancedTexts) {compiled : Compiled}
    (compiles : s.compile = .ok compiled) : (o.select s).Shows compiled.sql s.Brackets := by
  obtain ⟨from_, columns, grouped, reads, named, keyed, paged⟩ := State.of_compile compiles
  have sql : compiled.sql = "SELECT " ++ columns ++ " FROM " ++ from_.sql.display ++ s.joinsText ++
      s.whereText ++ grouped ++
      (if s.writesHaving then unlessEmpty " HAVING " (s.clauseText .groups) else "") ++
      (s.orderText ++ s.pagingText) ++ s.unionsText := by
    obtain ⟨text, selected, rfl⟩ := of_map_eq_ok compiles
    simp only [State.selectText, State.requireSource, reads, named, State.groupText_eq keyed, paged,
      bind, Except.bind, Except.ok.injEq] at selected
    rw [← selected]
    simp only [String.append_assoc]
  have opening : Balanced ("SELECT " ++ columns ++ " FROM ") :=
    ((by decide : Balanced "SELECT ").append (texts.columnsText named)).append (by decide)
  have having_ : (if s.writesHaving then (o.clause .groups).after " HAVING " else plain "").Shows
      (if s.writesHaving then unlessEmpty " HAVING " (s.clauseText .groups) else "")
      fun part => s.writesHaving = true ∧ s.ClauseBrackets .groups part := by
    split
    · exact ((draws.clause .groups).after (by decide)).mono fun part member => member.2
    · rename_i unwritten
      exact (shows_plain (by decide)).mono fun part member => unwritten member.1
  have where_ := (draws.clause .rows).after (by decide : Balanced " WHERE ")
  have whole := (((((((shows_plain opening).append (draws.source from_ reads)).append
    (shows_plain texts.joinsText)).append where_).append
    (shows_plain (texts.groupingText keyed))).append having_).append
    (shows_plain (Balanced.append texts.orderText texts.pagingText))).append draws.unions
  rw [sql, Outline.select, named, keyed]
  refine whole.mono ?_
  rintro part (⟨source, known, inSource⟩ | inRows | inGroups)
  · obtain rfl := Option.some.inj (reads.symm.trans known)
    simp [inSource]
  · simp [inRows]
  · simp [inGroups]

end Outline

/-! ## New fragments -/

/-- A row of placeholders is balanced. -/
theorem balanced_placeholders (n : Nat) : Balanced (placeholders n) := by
  refine TextClass.holds_commaSeparated (T := balancedTexts) fun t member => ?_
  rw [List.eq_of_mem_replicate member]
  exact (by decide : Balanced "?")

/-- Texts are the same if they are in brackets. -/
theorem append_bracket_inj {s t : String} (h : "(" ++ s ++ ")" = "(" ++ t ++ ")") : s = t :=
  (String.append_right_inj "(").1 ((String.append_left_inj ")").1 h)

/-- The last condition of a clause with a layout has one. -/
theorem Laid.last {T : TextClass} {cs : List Condition} {c : Condition} {l : Layout}
    (h : Laid T (.clause (cs ++ [c])) l) : ∃ m, Laid T (.condition c) m := by
  generalize hf : cs ++ [c] = all at h
  cases h with
  | noConditions => exact absurd hf (by simp)
  | @oneCondition c' _ h =>
    have alone : cs ++ [c] = [] ++ [c'] := hf
    obtain rfl := List.singleton_inj.1 (List.append_inj_right' alone rfl)
    exact ⟨_, h⟩
  | nextCondition some hs h =>
    obtain rfl := List.singleton_inj.1 (List.append_inj_right' hf rfl)
    exact ⟨_, h⟩

/-- The column and the operator of a test against the rows of a statement are in the class. -/
theorem Laid.subqueryTexts {T : TextClass} {k : Connector} {column operator sql : String}
    {bindings : List Value} {l : Layout}
    (h : Laid T (.condition (.subquery k column operator sql bindings)) l) :
    T.Holds column ∧ T.Holds operator := by
  cases h with
  | subquery hc ho h => exact ⟨hc, ho⟩

/-- What a callback built is drawn by its outline, and its texts are balanced. -/
structure Built.Drawn (b : Built) : Prop where
  /-- The outline. -/
  draws : b.outline.Draws b.state
  /-- The texts. -/
  texts : b.state.TextsHold balancedTexts

/-- A state comes from what a callback built. -/
def Built.Gives (built : Option Built) (inner : State) : Prop :=
  ∃ b, built = some b ∧ b.state = inner

section

variable {e : String} {built : Option Built} {inner : State} {compiled : Compiled}

/-- A statement that a callback built, in brackets, shows its text in brackets. -/
theorem Built.Drawn.select (drawn : ∀ b, built = some b → b.Drawn) {b : Built}
    (given : built = some b) (compiles : b.state.compile = .ok compiled) :
    (brackets (b.outline.select b.state)).Shows ("(" ++ compiled.sql ++ ")")
      fun part => part = compiled.sql := by
  have shown := (drawn b given).draws.select (drawn b given).texts compiles
  exact (shown.brackets (State.sql_ne_empty compiles)).mono fun part => .inl

/-- A table shows its text. -/
theorem Source.shows_table {source : Source} (table : source.derived = false) {l : Layout}
    (laid : Laid balancedTexts (.source source) l) :
    (source.nesting built).Shows source.sql.display source.Brackets := by
  have holds : Balanced source.sql.display := by
    cases laid with
    | table binds holds => exact holds
    | derived => cases table
  unfold Source.nesting
  rw [table]
  refine (shows_plain holds).mono fun part inside => ?_
  exact absurd (table.symm.trans inside.1) Bool.false_ne_true

/-- A derived table shows its statement in brackets. -/
theorem Source.shows_ofCompiled (drawn : ∀ b, built = some b → b.Drawn)
    (given : Built.Gives built inner) (compiles : inner.compile = .ok compiled) {aliasName : Value}
    {l : Layout} (laid : Laid balancedTexts (.source (.ofCompiled compiled aliasName)) l) :
    ((Source.ofCompiled compiled aliasName).nesting built).Shows
      (Source.ofCompiled compiled aliasName).sql.display
      (Source.ofCompiled compiled aliasName).Brackets := by
  obtain ⟨b, rfl, rfl⟩ := given
  have shown := Built.Drawn.select drawn rfl compiles
  have sql : (Source.ofCompiled compiled aliasName).sql.display =
      "(" ++ compiled.sql ++ ")" ++ (" AS " ++ aliasName.display) := by
    simp only [Source.ofCompiled, Value.display_text, String.append_assoc]
    rfl
  have named : Balanced (" AS " ++ aliasName.display) := by
    generalize hs : Source.ofCompiled compiled aliasName = source at laid sql
    -- A derived table that binds nothing may be laid out as a table is. Then only its whole text is
    -- known to be balanced, and so what comes after the closing bracket is.
    cases laid with
    | table binds holds =>
      exact Balanced.of_append (shown.text ▸ shown.regular.balanced) (sql ▸ holds)
    | @derived _ _ aliasName' _ holds =>
      have same : aliasName = aliasName' := congrArg Source.aliasName hs
      exact Balanced.append (by decide) (same ▸ holds)
  rw [sql]
  refine (shown.append (shows_plain named)).mono ?_
  rintro part ⟨-, display⟩
  have same := (String.append_left_inj _).1 (sql.symm.trans display)
  exact .inl (append_bracket_inj same).symm

/-- A group shows its clause, or the predicate for an empty one, in brackets. -/
theorem Built.Drawn.group {b : Built} (drawn : b.Drawn) (balanced : Balanced e) (filled : e ≠ "")
    (clause : Clause) :
    (brackets (b.group e clause)).Shows
      (Condition.groupText (b.state.clauseText clause) e)
      fun part => part = if (b.state.clauseText clause).isEmpty then e
        else b.state.clauseText clause := by
  have shown := drawn.draws.clause clause
  unfold Built.group Condition.groupText
  rw [shown.text]
  split
  · exact ((shows_plain balanced).brackets filled).mono fun part => .inl
  · rename_i some
    exact (shown.brackets fun none => some (String.isEmpty_iff.2 none)).mono fun part => .inl

/-- A condition that was made for a clause shows what it has in brackets. -/
theorem Condition.Made.shows {clause : Clause} {c : Condition}
    (made : c.Made (Built.Gives built) e clause) (drawn : ∀ b, built = some b → b.Drawn)
    (balanced : Balanced e) (filled : e ≠ "") {l : Layout}
    (laid : Laid balancedTexts (.condition c) l) :
    (c.nesting e clause built).Shows c.render c.Brackets := by
  have space : Balanced " " := by decide
  cases made with
  | simple k column operator value =>
    cases laid with
    | simple hc ho => exact shows_plain (((Balanced.append hc space).append ho).append (by decide))
  | nullTest k column operator =>
    cases laid with
    | nullTest hc ho => exact shows_plain ((Balanced.append hc space).append ho)
  | @membership k column operator values some =>
    cases laid with
    | membership hc ho =>
      have opening := (Balanced.append hc space).append ho
      have listed := space.append (balanced_placeholders values.length).bracketed
      refine shows_plain ?_
      rw [render]
      have split : column ++ " " ++ operator ++ " (" ++ placeholders values.length ++ ")" =
          column ++ " " ++ operator ++ (" " ++ ("(" ++ placeholders values.length ++ ")")) := by
        simp only [String.append_assoc, ← space_bracket]
      exact split ▸ opening.append listed
  | @subquery k column operator inner compiled given compiles =>
    obtain ⟨hc, ho⟩ := laid.subqueryTexts
    obtain ⟨b, rfl, rfl⟩ := given
    have opening := ((Balanced.append hc space).append ho).append space
    have split : column ++ " " ++ operator ++ " (" ++ compiled.sql ++ ")" =
        column ++ " " ++ operator ++ " " ++ ("(" ++ compiled.sql ++ ")") := by
      simp only [String.append_assoc, ← space_bracket]
    have shown := (shows_plain opening).append (Built.Drawn.select drawn rfl compiles)
    rw [render, split]
    exact shown.mono fun part => .inr
  | @group k inner given =>
    obtain ⟨b, rfl, rfl⟩ := given
    have shown := (drawn b rfl).group balanced filled clause
    exact shown.mono fun part same => (append_bracket_inj same).symm

/-! ## Moves -/

namespace Outline.Draws

variable {o : Outline} {s s' : State} (draws : o.Draws s)

include draws

/-- A source that stays is drawn by the outline that grows. -/
theorem source_of_eq (same : s'.source = s.source) : ∀ source, s'.source = some source →
    (o.growSource built s s').Shows source.sql.display source.Brackets := by
  have kept : o.growSource built s s' = o.source := by
    rw [growSource, same]
    cases s.source <;> rfl
  rw [same, kept]
  exact draws.source

omit draws in
/-- A source that is set is drawn by the outline that grows, if its nesting shows it. -/
theorem source_of_set (free : s.source = none) {source : Source} (set : s'.source = some source)
    (shown : (source.nesting built).Shows source.sql.display source.Brackets) :
    ∀ source, s'.source = some source →
      (o.growSource built s s').Shows source.sql.display source.Brackets := by
  have grown : o.growSource built s s' = source.nesting built := by
    rw [growSource, free, set]
  intro known reads
  obtain rfl := Option.some.inj (set.symm.trans reads)
  exact grown ▸ shown

/-- A clause that stays is drawn by the outline that grows. -/
theorem clause_of_eq {clause : Clause} (same : s'.conditions clause = s.conditions clause) :
    (o.growClause e built s s' clause).Shows (s'.clauseText clause) (s'.ClauseBrackets clause) := by
  have kept : o.growClause e built s s' clause = o.clause clause := by
    rw [growClause, same, List.getElem?_length]
  rw [kept, State.clauseText, same]
  refine (draws.clause clause).mono ?_
  rintro part ⟨c, member, inside⟩
  exact ⟨c, same ▸ member, inside⟩

/-- Unions that stay are drawn by the outline that grows. -/
theorem unions_of_eq (same : s'.unions = s.unions) :
    (o.growUnions built s s').Shows s'.unionsText fun _ => False := by
  have kept : o.growUnions built s s' = o.unions := by
    unfold growUnions
    rw [same, List.getElem?_length]
  rw [kept, State.unionsText, same]
  exact draws.unions

/-- A condition that was made is shown after those of its clause. -/
theorem clause_of_made {clause : Clause} {c : Condition}
    (grown : s'.conditions clause = s.conditions clause ++ [c])
    (shown : (c.nesting e clause built).Shows c.render c.Brackets) :
    (o.growClause e built s s' clause).Shows (s'.clauseText clause) (s'.ClauseBrackets clause) := by
  have known := draws.clause clause
  rw [growClause, grown, List.getElem?_concat_length]
  dsimp only
  rw [State.clauseText, grown]
  have inside part (member : s'.ClauseBrackets clause part) :
      s.ClauseBrackets clause part ∨ c.Brackets part := by
    obtain ⟨c', member, inside⟩ := member
    rcases List.mem_append.1 (grown ▸ member) with earlier | new
    · exact .inl ⟨c', earlier, inside⟩
    · exact .inr (List.mem_singleton.1 new ▸ inside)
  rw [State.clauseText] at known
  cases conditions : s.conditions clause with
  | nil =>
    rw [List.nil_append, Condition.renderAll, List.map_nil, String.join_nil, String.append_empty]
    refine shown.mono fun part member => ?_
    rcases inside part member with ⟨c', member', -⟩ | new
    · exact absurd (conditions ▸ member') List.not_mem_nil
    · exact new
  | cons first rest =>
    rw [conditions] at known
    have connected : Balanced (" " ++ c.connector.keyword ++ " ") := by
      cases c.connector <;> decide
    have text : Condition.renderAll (first :: rest ++ [c]) =
        Condition.renderAll (first :: rest) ++
          (" " ++ c.connector.keyword ++ " " ++ c.render) := by
      rw [Condition.renderAll_append, List.map_singleton, String.join_cons, String.join_nil,
        String.append_empty, Condition.renderNext]
    rw [text]
    have whole := known.append ((shows_plain connected).append shown)
    refine whole.mono fun part member => ?_
    exact (inside part member).imp id .inr

/-- A union that compiles is shown after the earlier ones. -/
theorem unions_of_compiled {kind : UnionKind} {inner : State} {compiled : Compiled}
    (grown : s'.unions = s.unions ++ [⟨kind, compiled.sql, compiled.params⟩])
    (drawn : ∀ b, built = some b → b.Drawn) (given : Built.Gives built inner)
    (compiles : inner.compile = .ok compiled) :
    (o.growUnions built s s').Shows s'.unionsText fun _ => False := by
  obtain ⟨b, rfl, rfl⟩ := given
  have shown := (drawn b rfl).draws.select (drawn b rfl).texts compiles
  have opening : Balanced kind.opening := by
    cases kind <;> decide
  have text : s'.unionsText = s.unionsText ++ (kind.opening ++ compiled.sql) := by
    rw [State.unionsText, grown, List.map_append, String.join_append, List.map_singleton,
      String.join_cons, String.join_nil, String.append_empty, UnionBranch.render_eq]
    rfl
  unfold growUnions
  rw [grown, List.getElem?_concat_length, text]
  exact (draws.unions.append ((shows_plain opening).append shown)).mono fun _ => .inl

/-- A move keeps an outline drawn if what its callback builds is, and if all texts are balanced. -/
theorem grow {part : Option Part} (moved : s.Moves (Built.Gives built) e part s')
    (drawn : ∀ b, built = some b → b.Drawn) (balanced : Balanced e) (filled : e ≠ "")
    (sound : s'.Sound balancedTexts) : (o.grow e built s s').Draws s' where
  source := by
    cases moved with
    | @table table free unmarked unbound =>
      obtain ⟨l, laid⟩ := sound.source table rfl
      exact source_of_set free rfl (Source.shows_table unmarked laid)
    | derived free given compiles aliasName =>
      obtain ⟨l, laid⟩ := sound.source _ rfl
      exact source_of_set free rfl (Source.shows_ofCompiled drawn given compiles laid)
    | condition clause made => exact draws.source_of_eq (by cases clause <;> rfl)
    | _ => exact draws.source_of_eq rfl
  clause clause := by
    cases moved with
    | @condition clause' c made =>
      -- What a callback built has an outline of its own. That the texts around it are balanced
      -- comes from the layout of the clause after the call.
      by_cases same : clause = clause'
      · subst same
        have grown := s.conditions_addCondition clause c
        obtain ⟨l, laid⟩ := sound.clause clause
        obtain ⟨m, laid⟩ := Laid.last (grown ▸ laid)
        exact draws.clause_of_made grown (made.shows drawn balanced filled laid)
      · exact draws.clause_of_eq (s.conditions_addCondition_of_ne c same)
    | _ => exact draws.clause_of_eq (by cases clause <;> rfl)
  unions := by
    cases moved with
    | condition clause made => exact draws.unions_of_eq (by cases clause <;> rfl)
    | union kind given compiles => exact draws.unions_of_compiled rfl drawn given compiles
    | _ => exact draws.unions_of_eq rfl

end Outline.Draws

end

/-! ## Enclosed parts -/

/-- All that a state compiles is bracketed as its outline says, with all that the state puts in
brackets. -/
structure Outline.Encloses (o : Outline) (s : State) : Prop where
  /-- The SELECT. -/
  select : ∀ compiled, s.compile = .ok compiled → (o.select s).Bracketed compiled.sql s.Brackets
  /-- The clauses on their own. -/
  clause : ∀ clause, (o.clause clause).Bracketed (s.clauseText clause) (s.ClauseBrackets clause)

/-- An outline that draws a state encloses what the state puts in brackets. -/
theorem Outline.Draws.encloses {o : Outline} {s : State} (draws : o.Draws s)
    (texts : s.TextsHold balancedTexts) : o.Encloses s where
  select _ compiles := (draws.select texts compiles).bracketed
  clause clause := (draws.clause clause).bracketed

end SqlBuilder
