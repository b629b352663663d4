import SqlBuilder.Proofs.Alignment
import SqlBuilder.Proofs.Spellings

/-!
# References with quoted identifiers

A join that infers its columns cuts names out of references: words at blanks, and the last part of
a name at its last dot. The cuts do not look at quotes. A piece that is cut outside quotes has all
the quotes that it opens, so what is put together from such pieces is neutral; a piece that is cut
inside a quoted identifier leaves its quote open. Which of the two happens can be read off the
names in a row.
-/

set_option autoImplicit false

namespace SqlBuilder

namespace Text

variable {α : Type} {separates : α → Bool}

/-- What trimming takes away are separators. -/
theorem exists_append_trimBy (xs : List α) :
    ∃ front back, xs = front ++ (trimBy separates xs ++ back) ∧
      (∀ x ∈ front, separates x = true) ∧ ∀ x ∈ back, separates x = true := by
  have taken (ys : List α) : ∀ x ∈ ys.takeWhile separates, separates x = true :=
    fun _ => List.all_eq_true.1 List.all_takeWhile _
  let inner := xs.dropWhile separates
  have front : xs.takeWhile separates ++ inner = xs := List.takeWhile_append_dropWhile
  have back := congrArg List.reverse
    (List.takeWhile_append_dropWhile (p := separates) (l := inner.reverse))
  rw [List.reverse_append, List.reverse_reverse] at back
  refine ⟨xs.takeWhile separates, (inner.reverse.takeWhile separates).reverse, ?_, taken xs, ?_⟩
  · rw [trimBy, trimLeftBy, trimLeftBy, back, front]
  · intro x hx
    exact taken inner.reverse x (List.mem_reverse.1 hx)

end Text

namespace Sql

/-! ## Pieces -/

/-- Whether a scan finds a placeholder does not depend on where the text starts. -/
theorem placeholdersFrom_eq_nil_iff (quoting : Quoting) (offset : Nat) (cs : List Char) :
    placeholdersFrom quoting offset cs = [] ↔ placeholdersFrom quoting 0 cs = [] := by
  have shifted := placeholdersFrom_add quoting offset 0 cs
  rw [Nat.add_zero] at shifted
  rw [shifted, List.map_eq_nil_iff]

/-- Behind a neutral text, a text is neutral exactly when both in a row are. -/
theorem neutral_append_iff {s t : String} (h : Neutral s) : Neutral (s ++ t) ↔ Neutral t := by
  refine ⟨fun ⟨noneFound, closed⟩ => ?_, h.append⟩
  rw [String.toList_append, Quoting.after_append, h.2] at closed
  rw [placeholderPositions, String.toList_append, placeholdersFrom_append, h.2,
    List.append_eq_nil_iff, placeholdersFrom_eq_nil_iff none (0 + _)] at noneFound
  exact ⟨noneFound.2, closed⟩

/-- A piece of a text that is cut out outside quotes. -/
def IsPiece (piece whole : String) : Prop :=
  ∃ front back, whole.toList = front ++ (piece.toList ++ back) ∧ Quoting.after none front = none ∧
    Quoting.after none piece.toList = none

/-- A piece of a neutral text is neutral. -/
theorem IsPiece.neutral {piece whole : String} (cut : IsPiece piece whole) (h : Neutral whole) :
    Neutral piece := by
  obtain ⟨front, back, shape, before, closed⟩ := cut
  have noneFound := h.1
  rw [placeholderPositions, shape, placeholdersFrom_append, before, placeholdersFrom_append,
    List.append_eq_nil_iff, List.append_eq_nil_iff,
    placeholdersFrom_eq_nil_iff none (0 + _)] at noneFound
  exact ⟨noneFound.2.1, closed⟩

/-- Whether the separators in a text all stand outside quotes. -/
def separatesFrom (separates : Char → Bool) : Quoting → List Char → Bool
  | _, [] => true
  | quoting, c :: cs =>
    (!separates c || quoting.isNone) && separatesFrom separates (quoting.step c) cs

/-- The separators in a text stand outside quotes. -/
def SeparatesOutside (separates : Char → Bool) (s : String) : Prop :=
  separatesFrom separates none s.toList = true

/-- A scan decides whether all separators of a text are outside quotes. -/
instance (separates : Char → Bool) (s : String) : Decidable (SeparatesOutside separates s) :=
  inferInstanceAs (Decidable (_ = _))

section Separators

variable {separates : Char → Bool} {quoting : Quoting} {xs ys : List Char}

/-- The separators in two texts in a row are those of both. -/
theorem separatesFrom_append (quoting : Quoting) (xs ys : List Char) :
    separatesFrom separates quoting (xs ++ ys) =
      (separatesFrom separates quoting xs && separatesFrom separates (quoting.after xs) ys) := by
  induction xs generalizing quoting with
  | nil => exact (Bool.true_and _).symm
  | cons c cs ih =>
    rw [List.cons_append, separatesFrom, separatesFrom, ih, Bool.and_assoc]
    rfl

/-- At a separator that stands outside quotes, nothing is left open. -/
theorem eq_none_of_separatesFrom (outside : separatesFrom separates quoting ys = true)
    {c : Char} (first : c ∈ ys.head?) (h : separates c = true) : quoting = none := by
  obtain ⟨rest, rfl⟩ := List.head?_eq_some_iff.1 first
  rw [separatesFrom, h, Bool.and_eq_true] at outside
  exact Option.isNone_iff_eq_none.1 outside.1

/-- The separators in a piece are separators in the whole. -/
theorem IsPiece.separatesOutside {piece whole : String} (cut : IsPiece piece whole)
    (outside : SeparatesOutside separates whole) : SeparatesOutside separates piece := by
  obtain ⟨front, back, shape, before, -⟩ := cut
  rw [SeparatesOutside, shape, separatesFrom_append, before, separatesFrom_append,
    Bool.and_eq_true, Bool.and_eq_true] at outside
  exact outside.2.1

/-- Fewer separators stand outside quotes if more do. -/
theorem SeparatesOutside.mono {fewer : Char → Bool}
    (h : ∀ c, fewer c = true → separates c = true) {s : String}
    (outside : SeparatesOutside separates s) : SeparatesOutside fewer s := by
  unfold SeparatesOutside at outside ⊢
  generalize s.toList = cs at outside ⊢
  generalize (none : Quoting) = quoting at outside ⊢
  induction cs generalizing quoting with
  | nil => rfl
  | cons c cs ih =>
    rw [separatesFrom, Bool.and_eq_true, Bool.or_eq_true] at outside ⊢
    refine ⟨outside.1.imp_left fun kept => ?_, ih _ outside.2⟩
    rw [Bool.not_eq_true'] at kept ⊢
    exact Bool.eq_false_iff.2 fun separated => by simp [h c separated] at kept

end Separators

/-! ## Where references are cut -/

/-- Blanks leave a scan where it is. -/
theorem after_blanks {cs : List Char} (blanks : ∀ c ∈ cs, Text.isBlank c = true) :
    Quoting.after none cs = none := by
  have unscanned : cs.filter isScanned = [] := by
    rw [List.filter_eq_nil_iff]
    intro c hc
    exact Bool.eq_false_iff.1 (Text.eq_false_of_isBlank neutralTexts.mem_punctuation (blanks c hc))
  rw [← Quoting.after_filter Quoting.regular_none, unscanned]
  rfl

/-- Words are cut outside quotes if the blanks are. -/
theorem after_of_mem_wordsBy {xs word : List Char} (closed : Quoting.after none xs = none)
    (outside : separatesFrom Text.isBlank none xs = true)
    (h : word ∈ Text.wordsBy Text.isBlank xs) :
    ∃ front back, xs = front ++ (word ++ back) ∧ Quoting.after none front = none ∧
      Quoting.after none word = none := by
  generalize split : Text.wordsBy Text.isBlank xs = words at h
  induction words generalizing xs with
  | nil => cases h
  | cons first later ih =>
    obtain ⟨rest, front, ends, others⟩ := Text.of_wordsBy_eq_cons split
    let gap := xs.takeWhile Text.isBlank
    have blanks : Quoting.after none gap = none :=
      after_blanks fun _ => List.all_eq_true.1 List.all_takeWhile _
    have shape : xs = gap ++ (first ++ rest) := by
      rw [← front]
      exact List.takeWhile_append_dropWhile.symm
    rw [shape, Quoting.after_append, blanks, Quoting.after_append] at closed
    rw [shape, separatesFrom_append, blanks, separatesFrom_append, Bool.and_eq_true,
      Bool.and_eq_true] at outside
    -- The first word ends where the text ends or in front of a blank, which is outside quotes.
    have ended : Quoting.after none first = none := by
      cases next : rest.head? with
      | none =>
        rw [List.head?_eq_none_iff.1 next] at closed
        exact closed
      | some c => exact eq_none_of_separatesFrom outside.2.2 next (ends c next)
    rcases List.mem_cons.1 h with rfl | member
    · exact ⟨gap, rest, shape, blanks, ended⟩
    · rw [ended] at closed outside
      obtain ⟨front', back, rest_eq, before, piece⟩ := ih closed outside.2.2 others member
      refine ⟨gap ++ (first ++ front'), back, ?_, ?_, piece⟩
      · rw [shape, rest_eq, List.append_assoc, List.append_assoc]
      · rw [Quoting.after_append, blanks, Quoting.after_append, ended, before]

variable {reference : String}

/-- A word is a piece of a neutral text whose blanks stand outside quotes. -/
theorem isPiece_of_mem_words (h : Neutral reference)
    (outside : SeparatesOutside Text.isBlank reference) {word : String}
    (member : word ∈ Text.words reference) : IsPiece word reference := by
  obtain ⟨cs, inner, rfl⟩ := List.mem_map.1 member
  obtain ⟨front, back, shape, before, closed⟩ := after_of_mem_wordsBy h.2 outside inner
  refine ⟨front, back, ?_, before, ?_⟩
  · rw [String.toList_ofList, shape]
  · rw [String.toList_ofList, closed]

/-- A neutral text without the blanks around it is a piece of it. -/
theorem isPiece_trim (h : Neutral reference) : IsPiece (Text.trim reference) reference := by
  obtain ⟨front, back, shape, before, -⟩ :=
    @Text.exists_append_trimBy _ Text.isBlank reference.toList
  have trimmed : Neutral (Text.trim reference) :=
    Neutral.congr (neutralTexts.marks_trim reference).symm h
  refine ⟨front, back, ?_, after_blanks before, trimmed.2⟩
  rw [Text.trim, String.toList_ofList]
  exact shape

/-- The names in a neutral reference are pieces of it if its blanks stand outside quotes. -/
theorem isPiece_parseReference (h : Neutral reference)
    (outside : SeparatesOutside Text.isBlank reference) :
    IsPiece (parseReference reference).1 reference ∧
      IsPiece (parseReference reference).2 reference := by
  have word {w : String} (member : w ∈ Text.words reference) : IsPiece w reference :=
    isPiece_of_mem_words h outside member
  unfold parseReference
  split
  · rename_i words
    rw [words] at word
    exact ⟨word (by simp), word (by simp)⟩
  · rename_i words
    rw [words] at word
    split
    · exact ⟨word (by simp), word (by simp)⟩
    · exact ⟨isPiece_trim h, isPiece_trim h⟩
  · exact ⟨isPiece_trim h, isPiece_trim h⟩

/-- The last part of a neutral name is a piece of it if its dots stand outside quotes. -/
theorem isPiece_lastPart {name : String} (h : Neutral name)
    (outside : SeparatesOutside (· == '.') name) :
    IsPiece (JoinRequest.lastPart name) name := by
  generalize parted : JoinRequest.lastPart name = part
  rcases (JoinRequest.isLastPart_lastPart name).2 with whole | ⟨qualifier, shape⟩
  · rw [parted] at whole
    subst whole
    exact ⟨[], [], (List.append_nil _).symm, rfl, h.2⟩
  · rw [parted] at shape
    have chars : name.toList = qualifier.toList ++ ('.' :: part.toList) := by
      rw [shape]
      simp
    have closed := h.2
    rw [SeparatesOutside, chars, separatesFrom_append, Bool.and_eq_true] at outside
    have before := eq_none_of_separatesFrom outside.2 rfl rfl
    rw [chars, Quoting.after_append, before] at closed
    refine ⟨qualifier.toList ++ ['.'], [], ?_, ?_, closed⟩
    · rw [chars]
      simp
    · rw [Quoting.after_append, before]
      rfl

end Sql

/-! ## Inferred joins -/

open JoinRequest (onText kindText isUnconditional lastPart)
open Sql (Compiled Neutral SeparatesOutside neutralTexts parseReference neutral_append_iff
  placeholderPositions)

/-- The text that the names of a source are cut from, with the separators at which they are cut: a
reference to a table at blanks and dots, the alias of a derived table at dots. -/
inductive Source.CutFrom : Source → String → (Char → Bool) → Prop
  /-- A table. -/
  | table {reference : String} {from_ : Source}
    (found : Source.ofReference (.text reference) = .ok from_) :
    CutFrom from_ reference fun c => Text.isBlank c || c == '.'
  /-- A derived table. -/
  | derived (compiled : Compiled) (aliasName : String) :
    CutFrom (Source.ofCompiled compiled (.text aliasName)) aliasName (· == '.')

/-- The names of a source are texts; they are pieces of a neutral text that they are cut from if
its separators stand outside quotes. -/
theorem Source.CutFrom.names {from_ : Source} {whole : String} {cuts : Char → Bool}
    (cut : from_.CutFrom whole cuts) :
    ∃ name aliasName, from_.table = .text name ∧ from_.aliasName = .text aliasName ∧
      (Neutral whole → SeparatesOutside cuts whole →
        Neutral aliasName ∧ Neutral (lastPart name)) := by
  cases cut with
  | @table reference _ found =>
    unfold Source.ofReference at found
    split at found
    · cases found
    · dsimp only [Value.trim?] at found
      split at found
      · cases found
      · cases found
        refine ⟨_, _, rfl, rfl, fun closed outside => ?_⟩
        have blanks : SeparatesOutside Text.isBlank whole :=
          outside.mono fun c blank => by rw [blank, Bool.true_or]
        have dots : SeparatesOutside (· == '.') whole :=
          outside.mono fun c dot => by rw [dot, Bool.or_true]
        obtain ⟨name, aliasName⟩ := Sql.isPiece_parseReference closed blanks
        have part := Sql.isPiece_lastPart (name.neutral closed) (name.separatesOutside dots)
        exact ⟨aliasName.neutral closed, part.neutral (name.neutral closed)⟩
  | derived compiled =>
    refine ⟨whole, whole, rfl, rfl, fun closed outside => ⟨closed, ?_⟩⟩
    exact (Sql.isPiece_lastPart closed outside).neutral closed

/-- The predicate of an inferred join is neutral exactly when the names in it, in a row, are. -/
theorem neutral_onText_iff {kind reference aliasName joinedAlias key : String}
    (kindClosed : Neutral kind) (closed : Neutral reference) :
    Neutral (onText kind reference
        (aliasName ++ ".id" ++ " = " ++ (joinedAlias ++ "." ++ key ++ "_id"))) ↔
      Neutral (aliasName ++ joinedAlias ++ key) := by
  have opened : Neutral (JoinRequest.opening kind) := by
    unfold JoinRequest.opening
    split
    · decide
    · exact kindClosed.append (by decide)
  have head : Neutral (JoinRequest.opening kind ++ " " ++ reference ++ " ON ") :=
    ((opened.append (by decide)).append closed).append (by decide)
  have glue : (aliasName ++ ".id" ++ " = " ++ (joinedAlias ++ "." ++ key ++ "_id")).toList.filter
        Sql.isScanned = (aliasName ++ joinedAlias ++ key).toList.filter Sql.isScanned := by
    have id : ".id".toList.filter Sql.isScanned = [] := by decide
    have equals : " = ".toList.filter Sql.isScanned = [] := by decide
    have dot : ".".toList.filter Sql.isScanned = [] := by decide
    have keyed : "_id".toList.filter Sql.isScanned = [] := by decide
    simp only [String.toList_append, List.filter_append, id, equals, dot, keyed, List.append_nil,
      List.nil_append, List.append_assoc]
  rw [onText, neutral_append_iff head]
  exact ⟨Neutral.congr glue, Neutral.congr glue.symm⟩

variable {d : Driver}

/-- One more neutral join keeps a statement sound. -/
theorem Statement.Sound.joined {st : Statement d} (sound : st.Sound neutralTexts) {text : String}
    (h : Neutral text) : (st.joined text).Sound neutralTexts := by
  refine ⟨sound.emptyGroup, { sound.state with texts := { sound.state.texts with joins := ?_ } }⟩
  intro t ht
  rcases List.mem_append.1 ht with known | new
  · exact sound.state.texts.joins t known
  · rw [List.mem_singleton.1 new]
    exact h

/-- A sound state has a placeholder for each value that it binds, in order. -/
theorem State.Sound.aligned {s : State} (sound : s.Sound neutralTexts) {compiled : Compiled}
    (compiles : s.compile = .ok compiled) :
    ∃ l, Laid neutralTexts (.select s) l ∧ compiled = l.compiled ∧
      placeholderPositions compiled.sql = l.offsets ∧
      compiled.placeholderCount = compiled.params.length := by
  obtain ⟨l, laid, rfl⟩ := sound.laid compiles
  have positions : placeholderPositions l.compiled.sql = l.offsets :=
    laid.aligned.placeholderPositions
  refine ⟨l, laid, rfl, positions, ?_⟩
  rw [Compiled.placeholderCount, positions]
  exact Layout.length_offsetsFrom 0 l

/-- What a join infers respects quotes as far as the names that it cuts out of references do. After
any program with neutral texts, on a source and with a reference that are neutral, the inferred join
is neutral exactly when the alias of the source, the alias of the joined table and the last part of
the source's name are, in a row; if both aliases are neutral, exactly when the last part is. So it
is neutral if the references are cut outside quotes, and then every later call with neutral texts
leaves one placeholder for each value. -/
theorem inferred_join_neutral_iff (options : Options) (session : Option (Session d))
    (emptyGroup : Neutral options.emptyGroup) (before : List Call)
    (clean : Call.ProgramClean neutralTexts before (.blank options session)) {from_ : Source}
    (known : (Call.attempt before (.blank options session)).2.state.source = some from_)
    {whole : String} {cuts : Char → Bool} (cut : from_.CutFrom whole cuts)
    (wholeClosed : Neutral whole) {reference : String} (closed : Neutral reference)
    {kind : String} {kindArg : Arg} (kinds : kindText kindArg.toValue = .ok kind)
    (kindClosed : Neutral kind) (conditional : isUnconditional kind = false) :
    let st := (Call.attempt before (.blank options session)).2
    let aliasName := from_.aliasName.display
    let joinedAlias := (parseReference reference).2
    let key := lastPart from_.table.display
    let text := onText kind reference
      (aliasName ++ ".id" ++ " = " ++ (joinedAlias ++ "." ++ key ++ "_id"))
    (Call.joining reference .null .null kindArg).run st = (.ok .self, st.joined text) ∧
      (Neutral text ↔ Neutral (aliasName ++ joinedAlias ++ key)) ∧
      (Neutral aliasName → Neutral joinedAlias → (Neutral text ↔ Neutral key)) ∧
      (SeparatesOutside cuts whole → SeparatesOutside Text.isBlank reference → Neutral text) ∧
      (Neutral text → ∀ later, Call.ProgramClean neutralTexts later (st.joined text) →
        ∀ compiled, (Call.attempt later (st.joined text)).2.state.compile = .ok compiled →
          ∃ l, Laid neutralTexts (.select (Call.attempt later (st.joined text)).2.state) l ∧
            compiled = l.compiled ∧ placeholderPositions compiled.sql = l.offsets ∧
            compiled.placeholderCount = compiled.params.length) := by
  intro st aliasName joinedAlias key text
  have sound : st.Sound neutralTexts :=
    Call.attempt_sound before _ ⟨emptyGroup, State.sound_empty⟩ clean
  obtain ⟨name, sourceAlias, table, aliased, pieces⟩ := cut.names
  have names : aliasName = sourceAlias ∧ key = lastPart name := by
    simp only [aliasName, key, aliased, table, Value.display_text, and_self]
  have inRow : Neutral text ↔ Neutral (aliasName ++ joinedAlias ++ key) :=
    neutral_onText_iff kindClosed closed
  refine ⟨?_, inRow, fun aliasClosed joinedClosed => ?_, fun outside blanks => ?_,
    fun textClosed later cleanLater compiled compiles => ?_⟩
  · have parsed : parseReference reference = ((parseReference reference).1, joinedAlias) := rfl
    have missing : Value.null = .null ∨ Value.null = .null := .inl rfl
    have written (s : String) : (Value.null.orElse (.text s)).written = .ok s :=
      Value.written_text s
    rw [Call.run_joining parsed known table aliased kinds conditional missing (written _)
      (written _), ← names.1, ← names.2]
  · rw [inRow]
    exact neutral_append_iff (aliasClosed.append joinedClosed)
  · obtain ⟨aliasClosed, keyClosed⟩ := pieces wholeClosed outside
    rw [← names.1] at aliasClosed
    rw [← names.2] at keyClosed
    have joinedClosed := (Sql.isPiece_parseReference closed blanks).2.neutral closed
    exact inRow.2 ((aliasClosed.append joinedClosed).append keyClosed)
  · exact (Call.attempt_sound later _ (sound.joined textClosed) cleanLater).state.aligned compiles

/-- A table with quoted names and an alias. -/
def quotedTable : Source :=
  { sql := .text "\"app\".\"user?\" AS  u"
    table := .text "\"app\".\"user?\""
    aliasName := .text "u" }

/-- A question mark in a quoted table name stays in its quotes in the inferred join. -/
theorem inferred_join_neutral_iff_quotedTable :
    let before : List Call :=
      [.readFrom (.value (.text "\"app\".\"user?\" AS  u")) (.value .null)]
    let later : List Call :=
      [.require .rows (.value (.text "a")) (.value (.text ">")) (.value (.int 1))
        (.value (.text "AND"))]
    let st := (Call.attempt (d := Recording.driver) before (.blank {} none)).2
    let joined := st.joined "JOIN orders  o ON u.id = o.\"user?\"_id"
    let compiled := (Call.attempt later joined).2.state.compile
    (Call.joining "orders  o" .null .null (.value (.text ""))).run st = (.ok .self, joined) ∧
      compiled.toOption.map Compiled.sql = some ("SELECT * FROM \"app\".\"user?\" AS  u " ++
        "JOIN orders  o ON u.id = o.\"user?\"_id WHERE a > ?") ∧
      ∀ c, compiled = .ok c → c.placeholderCount = c.params.length := by
  intro before later st joined compiled
  have cleanBefore : Call.ProgramClean (d := Recording.driver) neutralTexts before
      (.blank {} none) :=
    ⟨fun _ => (by decide : Neutral "\"app\".\"user?\" AS  u"), trivial⟩
  have cleanLater : Call.ProgramClean neutralTexts later joined :=
    ⟨⟨TextClass.fieldHolds_text (by decide : Neutral "a"),
      TextClass.fieldHolds_text (by decide : Neutral ">")⟩, trivial⟩
  have found : Source.ofReference (.text "\"app\".\"user?\" AS  u") = .ok quotedTable := rfl
  have known : st.state.source = some quotedTable := rfl
  have kinds : kindText (Arg.value (.text "")).toValue = .ok "" := rfl
  have text : onText "" "orders  o" (quotedTable.aliasName.display ++ ".id" ++ " = " ++
      ((parseReference "orders  o").2 ++ "." ++ lastPart quotedTable.table.display ++ "_id")) =
      "JOIN orders  o ON u.id = o.\"user?\"_id" := by
    decide +kernel
  have cut : quotedTable.CutFrom _ _ := .table found
  have whole : Neutral "\"app\".\"user?\" AS  u" := by decide
  have closed : Neutral "orders  o" := by decide
  have respected := inferred_join_neutral_iff {} none (by decide) before cleanBefore known cut whole
    closed kinds (by decide) (by decide)
  dsimp only at respected
  rw [text] at respected
  obtain ⟨run, -, -, neutral, counts⟩ := respected
  have textClosed := neutral (by decide) (by decide)
  refine ⟨run, by decide +kernel, fun c compiles => ?_⟩
  obtain ⟨l, -, -, -, count⟩ := counts textClosed later cleanLater c compiles
  exact count

/-- A dot inside a quoted table name is cut at as well. The quote that the last part closes opens a
literal in the join, which swallows the placeholder of a later condition. -/
theorem inferred_join_cut_inside_quotes :
    let text (s : String) : Arg := .value (.text s)
    let reached := (Call.attempt (d := Recording.driver)
      [.readFrom (text "\"my.table\"") (.value .null),
        .joining "orders" .null .null (text ""),
        .require .rows (text "a") (.value (.int 1)) (.value .omitted) (text "AND")]
      (.blank {} none)).2
    Neutral "\"my.table\"" ∧ Neutral "orders" ∧
      reached.state.joins = ["JOIN orders ON \"my.table\".id = orders.table\"_id"] ∧
      ¬Neutral "JOIN orders ON \"my.table\".id = orders.table\"_id" ∧
      reached.state.compile.toOption.map (fun compiled =>
        (compiled.placeholderCount, compiled.params.length)) = some (0, 1) := by
  decide +kernel

end SqlBuilder
