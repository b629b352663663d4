import Mathlib.Data.List.TakeWhile
import SqlBuilder.Proofs.Composition
import SqlBuilder.Proofs.Growth
import SqlBuilder.Proofs.Words

/-!
# Spellings of references

A reference names a table and perhaps an alias, and there are many texts for the same names: with or
without `AS` in any case, with any blanks between the words and around them. `Refers` lists them. A
join that infers its columns sees the names only: the alias of the source with `.id`, and the alias
of the joined table with the last part of the source's name and `_id`. What was called between
setting the source and joining does not matter, since a source stays.
-/

set_option autoImplicit false

namespace SqlBuilder

namespace Text

/-- A text that is one word. -/
def IsWord (s : String) : Prop :=
  s ≠ "" ∧ ∀ c ∈ s.toList, isBlank c = false

/-- A text of blanks only, which may be empty. -/
def IsBlanks (s : String) : Prop :=
  ∀ c ∈ s.toList, isBlank c = true

/-- A look at each character decides whether a text is a word. -/
instance (s : String) : Decidable (IsWord s) :=
  decidable_of_iff (s ≠ "" ∧ s.toList.all (!isBlank ·) = true) (by simp [IsWord])

/-- A look at each character decides whether a text is blank. -/
instance (s : String) : Decidable (IsBlanks s) :=
  decidable_of_iff (s.toList.all isBlank = true) List.all_eq_true

variable {gap word s : String}

/-- A word has characters. -/
theorem IsWord.toList_ne_nil (h : IsWord word) : word.toList ≠ [] :=
  fun none => h.1 (String.toList_eq_nil_iff.1 none)

/-- Blanks start with a blank, if with anything. -/
theorem IsBlanks.head (blanks : IsBlanks gap) : ∀ c ∈ gap.toList.head?, isBlank c = true :=
  fun c first => blanks c (List.mem_of_mem_head? first)

/-- A text after a gap that is not empty starts with a blank. -/
theorem IsBlanks.head_append (blanks : IsBlanks gap) (some : gap ≠ "") :
    ∀ c ∈ (gap ++ s).toList.head?, isBlank c = true := by
  obtain ⟨blank, rest, shape⟩ :=
    List.exists_cons_of_ne_nil fun none => some (String.toList_eq_nil_iff.1 none)
  intro c first
  rw [String.toList_append, shape, List.cons_append, List.head?_cons] at first
  exact Option.some.inj first ▸ blanks blank (shape ▸ List.mem_cons_self)

/-- Blanks in front belong to no word. -/
theorem words_blanks_append (blanks : IsBlanks gap) (s : String) : words (gap ++ s) = words s := by
  rw [words, String.toList_append, wordsBy_append_of_separates blanks, words]

/-- There are no words among blanks. -/
theorem words_blanks (blanks : IsBlanks gap) : words gap = [] := by
  rw [words, wordsBy_eq_nil_iff.2 blanks, List.map_nil]

/-- The first word goes on until there is a blank. -/
theorem words_word_append (h : IsWord word) (ends : ∀ c ∈ s.toList.head?, isBlank c = true) :
    words (word ++ s) = word :: words s := by
  rw [words, String.toList_append, wordsBy_append h.toList_ne_nil h.2 ends, List.map_cons,
    String.ofList_toList, words]

/-- A text with a word in it is not trimmed away. -/
theorem trim_ne_empty (h : words s ≠ []) : trim s ≠ "" := by
  intro none
  have solid : ∀ c, isBlank c = true → (!isBlank c) = false := fun c blank => by rw [blank]; rfl
  have kept := filter_trimBy (p := fun c => !isBlank c) solid s.toList
  have empty : trimBy isBlank s.toList = [] := by
    rw [← String.toList_ofList (l := trimBy isBlank s.toList)]
    exact String.toList_eq_nil_iff.2 none
  rw [empty, List.filter_nil, eq_comm, List.filter_eq_nil_iff] at kept
  refine h (words_blanks fun c hc => ?_)
  simpa using kept c hc

section TrimBy

variable {α : Type} {separates : α → Bool} {front middle back : List α}

/-- Separators are dropped up to the first other element. -/
theorem dropWhile_append_solid (gap : ∀ x ∈ front, separates x = true) (some : middle ≠ [])
    (solid : ∀ x ∈ middle, separates x = false) :
    (front ++ (middle ++ back)).dropWhile separates = middle ++ back := by
  rw [List.dropWhile_append_of_pos gap]
  obtain ⟨x, rest, rfl⟩ := List.exists_cons_of_ne_nil some
  have first : ¬separates x = true := by
    rw [solid x List.mem_cons_self]
    exact Bool.false_ne_true
  rw [List.cons_append, List.dropWhile_cons_of_neg first]

/-- Trimming leaves what stands between separators. -/
theorem trimBy_append (before : ∀ x ∈ front, separates x = true)
    (after : ∀ x ∈ back, separates x = true) (some : middle ≠ [])
    (solid : ∀ x ∈ middle, separates x = false) :
    trimBy separates (front ++ (middle ++ back)) = middle := by
  have reversed : (middle ++ back).reverse = back.reverse ++ (middle.reverse ++ []) := by simp
  have behind : (back.reverse ++ (middle.reverse ++ [])).dropWhile separates =
      middle.reverse ++ [] :=
    dropWhile_append_solid (fun x hx => after x (List.mem_reverse.1 hx))
      (fun none => some (List.reverse_eq_nil_iff.1 none))
      (fun x hx => solid x (List.mem_reverse.1 hx))
  rw [trimBy, trimLeftBy, trimLeftBy, dropWhile_append_solid before some solid, reversed, behind,
    List.append_nil, List.reverse_reverse]

end TrimBy

end Text

namespace Sql

open Text (IsWord IsBlanks)

/-- The texts that refer to a table by its name, and perhaps by an alias: the words in their order,
with blanks between them and around. -/
inductive Refers (name : String) : Option String → String → Prop
  /-- The name alone. -/
  | alone {before after : String} (named : IsWord name) (first : IsBlanks before)
    (last : IsBlanks after) : Refers name none (before ++ (name ++ after))
  /-- The name and an alias. -/
  | followed {aliasName before gap after : String} (named : IsWord name)
    (aliased : IsWord aliasName) (first : IsBlanks before) (between : IsBlanks gap ∧ gap ≠ "")
    (last : IsBlanks after) :
    Refers name (some aliasName) (before ++ (name ++ (gap ++ (aliasName ++ after))))
  /-- The name, `AS` in any case, and an alias. -/
  | linked {aliasName link before gap gap' after : String} (named : IsWord name)
    (links : IsWord link ∧ Text.upper link = "AS") (aliased : IsWord aliasName)
    (first : IsBlanks before) (between : IsBlanks gap ∧ gap ≠ "")
    (between' : IsBlanks gap' ∧ gap' ≠ "") (last : IsBlanks after) :
    Refers name (some aliasName)
      (before ++ (name ++ (gap ++ (link ++ (gap' ++ (aliasName ++ after))))))

variable {name reference : String} {aliasName : Option String}

/-- A reference has words. -/
theorem Refers.words_ne_nil (h : Refers name aliasName reference) : Text.words reference ≠ [] := by
  cases h with
  | alone named first last =>
    rw [Text.words_blanks_append first, Text.words_word_append named last.head]
    exact List.cons_ne_nil _ _
  | followed named aliased first between last =>
    rw [Text.words_blanks_append first,
      Text.words_word_append named (between.1.head_append between.2)]
    exact List.cons_ne_nil _ _
  | linked named links aliased first between between' last =>
    rw [Text.words_blanks_append first,
      Text.words_word_append named (between.1.head_append between.2)]
    exact List.cons_ne_nil _ _

/-- Only the names of a reference are read, and without an alias the name serves as one. -/
theorem Refers.parseReference_eq (h : Refers name aliasName reference) :
    parseReference reference = (name, aliasName.getD name) := by
  cases h with
  | @alone before after named first last =>
    have words : Text.words (before ++ (name ++ after)) = [name] := by
      rw [Text.words_blanks_append first, Text.words_word_append named last.head,
        Text.words_blanks last]
    -- A single word is not looked at as such: the trimmed text is both table and alias.
    have whole : Text.trim (before ++ (name ++ after)) = name := by
      rw [Text.trim, String.toList_append, String.toList_append,
        Text.trimBy_append first last named.toList_ne_nil named.2, String.ofList_toList]
    simp [parseReference, words, whole]
  | @followed aliasName before gap after named aliased first between last =>
    have words : Text.words (before ++ (name ++ (gap ++ (aliasName ++ after)))) =
        [name, aliasName] := by
      rw [Text.words_blanks_append first,
        Text.words_word_append named (between.1.head_append between.2),
        Text.words_blanks_append between.1, Text.words_word_append aliased last.head,
        Text.words_blanks last]
    simp [parseReference, words]
  | @linked aliasName link before gap gap' after named links aliased first between between' last =>
    have words :
        Text.words (before ++ (name ++ (gap ++ (link ++ (gap' ++ (aliasName ++ after)))))) =
          [name, link, aliasName] := by
      rw [Text.words_blanks_append first,
        Text.words_word_append named (between.1.head_append between.2),
        Text.words_blanks_append between.1,
        Text.words_word_append links.1 (between'.1.head_append between'.2),
        Text.words_blanks_append between'.1, Text.words_word_append aliased last.head,
        Text.words_blanks last]
    simp [parseReference, words, links.2]

/-- A reference sets the source by the names that it refers to. -/
theorem Refers.ofReference_eq (h : Refers name aliasName reference) :
    Source.ofReference (.text reference) =
      .ok { sql := .text (Text.trim reference), table := .text name,
            aliasName := .text (aliasName.getD name) } := by
  have filled : reference ≠ "" := by
    rintro rfl
    exact h.words_ne_nil rfl
  have kept : Text.trim reference ≠ "" := Text.trim_ne_empty h.words_ne_nil
  simp [Source.ofReference, Value.truthy, Value.trim?, filled, kept, referenceOf,
    h.parseReference_eq, Except.map]

end Sql

/-! ## Names with dots -/

namespace JoinRequest

/-- The last of the parts that dots divide a name into. -/
def IsLastPart (part name : String) : Prop :=
  '.' ∉ part.toList ∧ (name = part ∨ ∃ qualifier, name = qualifier ++ "." ++ part)

/-- What a foreign key refers to is the last part of a name. -/
theorem isLastPart_lastPart (name : String) : IsLastPart (lastPart name) name := by
  have split := congrArg List.reverse
    (List.takeWhile_append_dropWhile (p := (· != '.')) (l := name.toList.reverse))
  rw [List.reverse_append, List.reverse_reverse] at split
  constructor
  · rw [lastPart, String.toList_ofList, List.mem_reverse]
    intro member
    simpa using List.all_eq_true.1 List.all_takeWhile _ member
  · cases behind : name.toList.reverse.dropWhile (· != '.') with
    | nil =>
      rw [behind, List.reverse_nil, List.nil_append] at split
      rw [lastPart, split, String.ofList_toList]
      exact .inl rfl
    | cons c rest =>
      have dot : c = '.' := by
        have stops := List.head?_dropWhile_not (fun c => c != '.') name.toList.reverse
        rw [behind] at stops
        simpa using stops
      refine .inr ⟨String.ofList rest.reverse, ?_⟩
      rw [behind, dot, List.reverse_cons] at split
      rw [← String.toList_inj, String.toList_append, String.toList_append, String.toList_ofList]
      exact split.symm.trans (congrArg _ String.toList_ofList.symm)

/-- A name has one last part. -/
theorem IsLastPart.eq_lastPart {part name : String} (h : IsLastPart part name) :
    part = lastPart name := by
  obtain ⟨undotted, shape⟩ := h
  have kept : ∀ c ∈ part.toList.reverse, (c != '.') = true := by
    intro c member
    have other : c ≠ '.' := fun dot => undotted (dot ▸ List.mem_reverse.1 member)
    simpa using other
  have taken : name.toList.reverse.takeWhile (· != '.') = part.toList.reverse := by
    rcases shape with rfl | ⟨qualifier, rfl⟩
    · exact List.takeWhile_eq_self_iff.2 kept
    · have reversed : (qualifier ++ "." ++ part).toList.reverse =
          part.toList.reverse ++ '.' :: qualifier.toList.reverse := by
        simp
      rw [reversed, List.takeWhile_append_of_pos kept, List.takeWhile_cons_of_neg (by simp),
        List.append_nil]
  rw [lastPart, taken, List.reverse_reverse, String.ofList_toList]

/-! ## Inferring -/

/-- The text of a join whose rows are matched by a predicate. -/
def onText (kind reference predicate : String) : String :=
  opening kind ++ " " ++ reference ++ " ON " ++ predicate

/-- A column that is given is written out instead of a text. -/
theorem writtenOr_ok (column : Value) (inferred : String) :
    writtenOr column (.ok inferred) = (column.orElse (.text inferred)).written := by
  unfold writtenOr Value.orElse
  split
  · rfl
  · exact (Value.written_text inferred).symm

/-- A join with a missing column compares the alias of the source with the alias of the joined
table, and keeps a column that is given. -/
theorem render_inferred {reference joinedName joinedAlias name aliasName kind : String}
    (parsed : Sql.parseReference reference = (joinedName, joinedAlias)) {source : Source}
    (table : source.table = .text name) (aliased : source.aliasName = .text aliasName)
    {kindValue : Value} (kinds : kindText kindValue = .ok kind)
    (conditional : isUnconditional kind = false) {first second : Value}
    (missing : first = .null ∨ second = .null) {left right : String}
    (leftmost : (first.orElse (.text (aliasName ++ ".id"))).written = .ok left)
    (rightmost : (second.orElse (.text (joinedAlias ++ "." ++ lastPart name ++ "_id"))).written =
      .ok right) :
    JoinRequest.render
        { table := .text reference, first := first, second := second, kind := kindValue }
        (some source) = .ok (onText kind reference (left ++ " = " ++ right)) := by
  let r : JoinRequest :=
    { table := .text reference, first := first, second := second, kind := kindValue }
  have inferred : r.inferredColumns (some source) = .ok (left, right) := by
    simp only [inferredColumns, r, Sql.referenceOf, parsed, table, aliased, keyTable,
      Value.display_text, Value.written_text, Except.map, writtenOr_ok, leftmost, rightmost, bind,
      Except.bind]
  have compared : r.comparedColumns (some source) = r.inferredColumns (some source) := by
    rcases r.comparedColumns_eq (some source) with ⟨same, -⟩ | ⟨-, someFirst, someSecond⟩
    · exact same
    · exact absurd missing (not_or.2 ⟨someFirst, someSecond⟩)
  have equals : (Value.null.orElse (.text "=")).written = .ok "=" := rfl
  have spaced : " = " = " " ++ "=" ++ " " := rfl
  show r.render (some source) = _
  simp only [render, ending, matching, compared, inferred, r, kinds, conditional, equals, spaced,
    bind, Except.bind, onText, Value.written_text, Bool.false_eq_true, if_false,
    String.append_assoc]

end JoinRequest

/-! ## Joining a source -/

variable {d : Driver}

/-- A call sets the source of a statement to a table or a derived table with a name and an alias.
The alias of a derived table is its name as well; there is a usual one when none is given. -/
inductive Call.SetsSource (st : Statement d) : Call → String → String → Prop
  /-- A table. -/
  | table {name reference : String} {aliasName : Option String}
    (refers : Sql.Refers name aliasName reference) (unused : Arg) :
    SetsSource st (.readFrom (.value (.text reference)) unused) name (aliasName.getD name)
  /-- A derived table. -/
  | derived {calls : List Call} {compiled : Sql.Compiled} {given : Arg} {aliasName : String}
    (builds : (st.nestedCompiled fun inner => Call.runAll calls inner).1 = .ok compiled)
    (aliased : given.toValue.orElse (.text st.options.subqueryAlias) = .text aliasName) :
    SetsSource st (.readFrom (.callback calls) given) aliasName aliasName

/-- A source that is set is there, with its name and its alias. -/
theorem Call.SetsSource.run {st : Statement d} {setting : Call} {name aliasName : String}
    (h : setting.SetsSource st name aliasName) (free : st.state.source = none) :
    (setting.run st).1 = .ok .self ∧ ∃ source, (setting.run st).2.state.source = some source ∧
      source.table = .text name ∧ source.aliasName = .text aliasName := by
  cases h with
  | @table name reference aliasName refers unused =>
    have run : (Call.readFrom (.value (.text reference)) unused).run st =
        (st.change ((Source.ofReference (.text reference)).map
          (Statement.withSource st.state))).self := by
      simp only [Call.run, Arg.denote, Statement.readFrom, free]
    rw [run, refers.ofReference_eq]
    exact ⟨rfl, _, rfl, rfl, rfl⟩
  | @derived calls compiled given _ builds aliased =>
    have options :
        (st.nestedCompiled fun inner => Call.runAll calls inner).2.options = st.options :=
      rfl
    have run : (Call.readFrom (.callback calls) given).run st =
        ((st.nestedCompiled fun inner => Call.runAll calls inner).2.change
          ((st.nestedCompiled fun inner => Call.runAll calls inner).1.bind fun compiled =>
            (Value.requireWritable [.text name]).bind fun _ =>
              .ok (Statement.withSource st.state
                (Source.ofCompiled compiled (.text name))))).self := by
      simp only [Call.run, Arg.denote, Statement.readFrom, free, options, aliased,
        Statement.state_nestedCompiled]
      rfl
    rw [run, builds]
    exact ⟨rfl, _, rfl, rfl, rfl⟩

/-- A program keeps a source that is set. -/
theorem Call.source_attempt (calls : List Call) {st : Statement d} {source : Source}
    (known : st.state.source = some source) :
    (Call.attempt calls st).2.state.source = some source := by
  induction calls generalizing st with
  | nil => exact known
  | cons call rest ih => exact ih ((call.grows st).grown.source source known)

/-- A join of a table by its reference, with columns that may be missing. -/
def Call.joining (reference : String) (first second : Value) (kind : Arg) : Call :=
  .join (.value (.text reference)) (.value first) (.value .null) (.value second) kind (.value .null)

/-- A statement with one more join. -/
def Statement.joined (st : Statement d) (text : String) : Statement d :=
  { st with state := { st.state with joins := st.state.joins ++ [text] } }

open JoinRequest (IsLastPart onText kindText isUnconditional)

/-- A join that infers a column adds what it infers. -/
theorem Call.run_joining {reference joinedName joinedAlias name aliasName kind : String}
    (parsed : Sql.parseReference reference = (joinedName, joinedAlias)) {st : Statement d}
    {source : Source} (known : st.state.source = some source) (table : source.table = .text name)
    (aliased : source.aliasName = .text aliasName) {kindArg : Arg}
    (kinds : kindText kindArg.toValue = .ok kind) (conditional : isUnconditional kind = false)
    {first second : Value} (missing : first = .null ∨ second = .null) {left right : String}
    (leftmost : (first.orElse (.text (aliasName ++ ".id"))).written = .ok left)
    (rightmost : (second.orElse
      (.text (joinedAlias ++ "." ++ JoinRequest.lastPart name ++ "_id"))).written = .ok right) :
    (Call.joining reference first second kindArg).run st =
      (.ok .self, st.joined (onText kind reference (left ++ " = " ++ right))) := by
  have rendered :=
    JoinRequest.render_inferred parsed table aliased kinds conditional missing leftmost rightmost
  let r : JoinRequest :=
    { table := .text reference, first := first, second := second, kind := kindArg.toValue }
  show (st.join r).self = _
  rw [Statement.join, known, rendered]
  rfl

/-- What a join infers does not depend on how references are spelled. Once a source with a name and
an alias is set, and whatever is called then, a join with any spelling of a reference compares the
alias of the source with the alias of the joined table and the last part of the source's name; a
column that is given is kept as it is. -/
theorem inferred_join_by_names {st : Statement d} (free : st.state.source = none) {setting : Call}
    {name aliasName : String} (sets : setting.SetsSource st name aliasName) (between : List Call)
    {joinedName reference : String} {joinedAlias : Option String}
    (refers : Sql.Refers joinedName joinedAlias reference) {kind : String} {kindArg : Arg}
    (kinds : kindText kindArg.toValue = .ok kind) (conditional : isUnconditional kind = false) :
    (setting.run st).1 = .ok .self ∧ ∃ part, IsLastPart part name ∧
      let reached := (Call.attempt between (setting.run st).2).2
      let left := aliasName ++ ".id"
      let right := joinedAlias.getD joinedName ++ "." ++ part ++ "_id"
      (Call.joining reference .null .null kindArg).run reached =
          (.ok .self, reached.joined (onText kind reference (left ++ " = " ++ right))) ∧
        ∀ column, column ≠ "" →
          (Call.joining reference (.text column) .null kindArg).run reached =
              (.ok .self, reached.joined (onText kind reference (column ++ " = " ++ right))) ∧
            (Call.joining reference .null (.text column) kindArg).run reached =
              (.ok .self, reached.joined (onText kind reference (left ++ " = " ++ column))) := by
  obtain ⟨done, source, known, table, aliased⟩ := sets.run free
  have still := Call.source_attempt between known
  have joins {first second : Value} (missing : first = .null ∨ second = .null) {left right : String}
      (leftmost : (first.orElse (.text (aliasName ++ ".id"))).written = .ok left)
      (rightmost : (second.orElse (.text (joinedAlias.getD joinedName ++ "." ++
        JoinRequest.lastPart name ++ "_id"))).written = .ok right) :=
    Call.run_joining refers.parseReference_eq still table aliased kinds conditional missing leftmost
      rightmost
  have inferred (text : String) : (Value.null.orElse (.text text)).written = .ok text :=
    Value.written_text text
  refine ⟨done, JoinRequest.lastPart name, JoinRequest.isLastPart_lastPart name, ?_⟩
  refine ⟨joins (.inl rfl) (inferred _) (inferred _), fun column some => ?_⟩
  have given (text : String) :
      ((Value.text column).orElse (.text text)).written = .ok column := by
    have truthy : (Value.text column).truthy = true := by simp [Value.truthy, some]
    rw [Value.orElse, if_pos truthy, Value.written_text]
  exact ⟨joins (.inr rfl) (given _) (inferred _), joins (.inl rfl) (inferred _) (given _)⟩

/-- Blanks, a lower-case `AS` and calls in between leave no trace in the join of posts with users.
-/
theorem inferred_join_by_names_users :
    let setting : Call := .readFrom (.value (.text "  app.users\taS  u ")) (.value .null)
    let between : List Call :=
      [.order (.value (.text "u.id")) (.value (.text "sideways")),
        .readFrom (.value (.text "orders")) (.value .null)]
    let reached := (Call.attempt (d := Recording.driver) between
      (setting.run (.blank {} none)).2).2
    (Call.joining "posts \n p" .null .null (.value (.text "left"))).run reached =
      (.ok .self, reached.joined "LEFT JOIN posts \n p ON u.id = p.users_id") := by
  intro setting between reached
  have source : Sql.Refers "app.users" (some "u") "  app.users\taS  u " :=
    @Sql.Refers.linked "app.users" "u" "aS" "  " "\t" "  " " "
      (by decide) (by decide) (by decide) (by decide) (by decide) (by decide) (by decide)
  have table : Sql.Refers "posts" (some "p") "posts \n p" :=
    @Sql.Refers.followed "posts" "p" "" " \n " ""
      (by decide) (by decide) (by decide) (by decide) (by decide)
  have sets : setting.SetsSource (d := Recording.driver) (.blank {} none) "app.users" "u" :=
    .table source _
  have kinds : kindText (Arg.value (.text "left")).toValue = .ok "LEFT" := rfl
  obtain ⟨-, part, isLast, joined, -⟩ :=
    inferred_join_by_names rfl sets between table kinds (by decide)
  have users : part = "users" := isLast.eq_lastPart.trans (by decide)
  subst users
  exact joined

end SqlBuilder
