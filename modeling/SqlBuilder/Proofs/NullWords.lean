import Mathlib.Data.List.DropRight
import Mathlib.Data.List.Forall2
import SqlBuilder.Condition.NullTest
import SqlBuilder.Proofs.Words

/-!
# Null tests by their words

A bare null test is read by keywords and blanks, from left to right. `NullWords` says the same of
its words alone: they are IS and NULL, or IS, NOT and NULL, in any case. The two agree on every text
(`isBare_iff`), and a text with these words mentions null.
-/

set_option autoImplicit false

namespace SqlBuilder.NullTest

/-- The characters that count as a letter of a keyword: its two cases, and the variants of `i` and
`s` that are no ASCII letters. -/
def caseForms : Char → List Char
  | 'I' => ['I', 'i', 'İ', 'ı']
  | 'S' => ['S', 's', 'ſ']
  | k => [k, k.toLower]

/-- Characters that are a keyword in any case. -/
abbrev SpellsChars (word keyword : List Char) : Prop :=
  List.Forall₂ (fun c k => c ∈ caseForms k) word keyword

/-- A word that is a keyword in any case. -/
def Spells (word keyword : String) : Prop :=
  SpellsChars word.toList keyword.toList

/-- The words of a text are those of a null test. -/
def NullWords (s : String) : Prop :=
  List.Forall₂ Spells (Text.words s) ["IS", "NULL"] ∨
    List.Forall₂ Spells (Text.words s) ["IS", "NOT", "NULL"]

/-- The letters of the keywords. -/
def keywordLetters : List Char := ['I', 'L', 'N', 'O', 'S', 'T', 'U']

/-! ## Letters -/

/-- What a table says of all entries it says of each. -/
theorem of_all_all {α β : Type} {xs : List α} {ys : α → List β} {p : α → β → Bool}
    (table : (xs.all fun x => (ys x).all (p x)) = true) {x : α} (hx : x ∈ xs) {y : β}
    (hy : y ∈ ys x) : p x y = true :=
  List.all_eq_true.1 (List.all_eq_true.1 table x hx) y hy

/-- The letters that are no ASCII letters and count as one in keywords. -/
def variants : List Char := ['ı', 'İ', 'ſ']

/-- A character that is neither an ASCII letter nor a variant of one is not folded. -/
theorem fold_of_not_ascii {c : Char} (beyond : 128 ≤ c.toNat) (h : c ∉ variants) :
    fold c = c := by
  have kept : c.toUpper = c := by
    refine dif_neg fun lower => ?_
    have greatest : c.val.toNat ≤ 122 := lower.2
    rw [Char.toNat] at beyond
    omega
  simp only [variants, List.mem_cons, List.not_mem_nil, or_false, not_or] at h
  simp [fold, h, kept]

/-- A character folds to a letter of a keyword exactly when it counts as it. -/
theorem fold_eq_iff {k : Char} (letter : k ∈ keywordLetters) (c : Char) :
    fold c = k ↔ c ∈ caseForms k := by
  by_cases ascii : c.toNat < 128
  · have table : (keywordLetters.all fun k => (List.range 128).all fun n =>
        decide (fold (Char.ofNat n) = k ↔ Char.ofNat n ∈ caseForms k)) = true := by
      decide +kernel
    have known := of_all_all table letter (List.mem_range.2 ascii)
    rwa [Char.ofNat_toNat, decide_eq_true_iff] at known
  · by_cases variant : c ∈ variants
    · have table : (keywordLetters.all fun k => variants.all fun c =>
          decide (fold c = k ↔ c ∈ caseForms k)) = true := by
        decide
      exact of_decide_eq_true (of_all_all table letter variant)
    · rw [fold_of_not_ascii (Nat.le_of_not_lt ascii) variant]
      have capitals : (keywordLetters.all fun k => decide (k.toNat < 128)) = true := by decide
      have forms : (keywordLetters.all fun k => (caseForms k).all fun x =>
          decide (x.toNat < 128 ∨ x ∈ variants)) = true := by
        decide
      constructor
      · rintro rfl
        exact absurd (of_decide_eq_true (List.all_eq_true.1 capitals _ letter)) ascii
      · intro member
        have known := of_decide_eq_true (of_all_all forms letter member)
        exact (known.elim ascii variant).elim

/-- A letter of a keyword in any case is no blank. -/
theorem isBlank_of_mem_caseForms {k c : Char} (letter : k ∈ keywordLetters)
    (h : c ∈ caseForms k) : Text.isBlank c = false := by
  have solid : (keywordLetters.all fun k => (caseForms k).all fun c => !Text.isBlank c) = true := by
    decide
  have known := of_all_all solid letter h
  rwa [Bool.not_eq_true'] at known

/-! ## Keywords -/

/-- A keyword is read off the front exactly when it is spelled there. -/
theorem afterKeyword?_eq_some_iff {keyword : List Char}
    (letters : ∀ k ∈ keyword, k ∈ keywordLetters) {cs rest : List Char} :
    afterKeyword? keyword cs = some rest ↔
      ∃ word, cs = word ++ rest ∧ SpellsChars word keyword := by
  induction keyword generalizing cs with
  | nil =>
    rw [afterKeyword?, Option.some.injEq]
    constructor
    · rintro rfl
      exact ⟨[], rfl, .nil⟩
    · rintro ⟨word, rfl, spelled⟩
      rw [List.forall₂_nil_right_iff.1 spelled, List.nil_append]
  | cons k keyword ih =>
    obtain ⟨letter, others⟩ := List.forall_mem_cons.1 letters
    cases cs with
    | nil =>
      refine ⟨nofun, ?_⟩
      rintro ⟨word, empty, spelled⟩
      obtain ⟨rfl, -⟩ := List.append_eq_nil_iff.1 empty.symm
      cases spelled
    | cons c cs =>
      rw [afterKeyword?]
      constructor
      · intro found
        split at found
        · rename_i same
          obtain ⟨word, rfl, spelled⟩ := (ih others).1 found
          exact ⟨c :: word, rfl, .cons ((fold_eq_iff letter c).1 (beq_iff_eq.1 same)) spelled⟩
        · cases found
      · rintro ⟨word, front, spelled⟩
        obtain ⟨first, tail, form, later, rfl⟩ := List.forall₂_cons_right_iff.1 spelled
        obtain ⟨rfl, rfl⟩ := List.cons.inj front
        rw [if_pos (beq_iff_eq.2 ((fold_eq_iff letter c).2 form))]
        exact (ih others).2 ⟨tail, rfl, later⟩

/-- A keyword holds no blank. -/
theorem SpellsChars.solid {word keyword : List Char}
    (letters : ∀ k ∈ keyword, k ∈ keywordLetters) (h : SpellsChars word keyword) :
    ∀ c ∈ word, Text.isBlank c = false := by
  induction h with
  | nil => exact nofun
  | cons form _ ih =>
    obtain ⟨letter, others⟩ := List.forall_mem_cons.1 letters
    exact List.forall_mem_cons.2 ⟨isBlank_of_mem_caseForms letter form, ih others⟩

/-- Blanks are read off the front exactly when there are any. -/
theorem afterBlanks?_eq_some_iff {cs rest : List Char} :
    afterBlanks? cs = some rest ↔ cs ≠ [] ∧ (∀ c ∈ cs.head?, Text.isBlank c = true) ∧
      rest = cs.dropWhile Text.isBlank := by
  cases cs with
  | nil => exact ⟨nofun, fun h => absurd rfl h.1⟩
  | cons c cs =>
    rw [afterBlanks?]
    cases blank : Text.isBlank c with
    | true =>
      rw [if_pos rfl, Option.some.injEq, List.dropWhile_cons_of_pos blank]
      constructor
      · rintro rfl
        refine ⟨List.cons_ne_nil c cs, ?_, rfl⟩
        rintro first ⟨⟩
        exact blank
      · exact fun h => h.2.2.symm
    | false =>
      rw [if_neg Bool.false_ne_true]
      refine ⟨nofun, fun h => ?_⟩
      rw [h.2.1 c rfl] at blank
      cases blank

/-! ## Words -/

section Words

variable {keyword cs rest : List Char} {more : List (List Char)}

/-- No blank stands in front. -/
def Trimmed (cs : List Char) : Prop :=
  cs.dropWhile Text.isBlank = cs

/-- Without its blanks in front a text is trimmed. -/
theorem trimmed_dropWhile (cs : List Char) : Trimmed (cs.dropWhile Text.isBlank) :=
  List.dropWhile_idempotent Text.isBlank cs

/-- What follows a keyword and blanks is trimmed. -/
theorem trimmed_of_found (found : (afterKeyword? keyword cs).bind afterBlanks? = some rest) :
    Trimmed rest := by
  obtain ⟨after, -, blanks⟩ := Option.bind_eq_some_iff.1 found
  obtain ⟨-, -, rfl⟩ := afterBlanks?_eq_some_iff.1 blanks
  exact trimmed_dropWhile after

section Keyword

variable (letters : ∀ k ∈ keyword, k ∈ keywordLetters) (given : keyword ≠ [])

include letters given

/-- A keyword that was read off the front with the blanks behind it is the first word. -/
theorem words_of_found (found : (afterKeyword? keyword cs).bind afterBlanks? = some rest) :
    ∃ word, SpellsChars word keyword ∧
      Text.wordsBy Text.isBlank cs = word :: Text.wordsBy Text.isBlank rest := by
  obtain ⟨after, front, blanks⟩ := Option.bind_eq_some_iff.1 found
  obtain ⟨word, rfl, spelled⟩ := (afterKeyword?_eq_some_iff letters).1 front
  obtain ⟨-, ends, rfl⟩ := afterBlanks?_eq_some_iff.1 blanks
  have nonempty : word ≠ [] := by
    rintro rfl
    cases spelled
    exact given rfl
  refine ⟨word, spelled, ?_⟩
  rw [Text.wordsBy_append nonempty (spelled.solid letters) ends, Text.wordsBy_dropWhile]

/-- The first word is a keyword and others follow exactly when it can be read off with the blanks
behind it. -/
theorem spelled_cons_iff (trimmed : Trimmed cs) (some : more ≠ []) :
    List.Forall₂ SpellsChars (Text.wordsBy Text.isBlank cs) (keyword :: more) ↔
      ∃ rest, (afterKeyword? keyword cs).bind afterBlanks? = .some rest ∧
        List.Forall₂ SpellsChars (Text.wordsBy Text.isBlank rest) more := by
  constructor
  · intro all
    obtain ⟨word, later, spelled, others, split⟩ := List.forall₂_cons_right_iff.1 all
    obtain ⟨rest, front, ends, known⟩ := Text.of_wordsBy_eq_cons split
    rw [trimmed] at front
    have continues : rest ≠ [] := by
      rintro rfl
      rw [← known] at others
      exact some (List.forall₂_nil_left_iff.1 others)
    refine ⟨rest.dropWhile Text.isBlank, ?_, ?_⟩
    · exact Option.bind_eq_some_iff.2 ⟨rest,
        (afterKeyword?_eq_some_iff letters).2 ⟨word, front, spelled⟩,
        afterBlanks?_eq_some_iff.2 ⟨continues, ends, rfl⟩⟩
    · rw [Text.wordsBy_dropWhile, known]
      exact others
  · rintro ⟨rest, found, others⟩
    obtain ⟨word, spelled, split⟩ := words_of_found letters given found
    rw [split]
    exact .cons spelled others

end Keyword

/-- The keywords consist of their letters. -/
theorem keywordLetters_is : ∀ k ∈ ['I', 'S'], k ∈ keywordLetters := by simp [keywordLetters]

/-- The letters of NOT are among those that keywords are compared by. -/
theorem keywordLetters_not : ∀ k ∈ ['N', 'O', 'T'], k ∈ keywordLetters := by simp [keywordLetters]

/-- The letters of NULL are among those that keywords are compared by. -/
theorem keywordLetters_null : ∀ k ∈ ['N', 'U', 'L', 'L'], k ∈ keywordLetters := by
  simp [keywordLetters]

/-- A trimmed text is the keyword NULL and blanks exactly when this is its only word. -/
theorem endsInNull_iff (trimmed : Trimmed cs) :
    endsInNull cs = true ↔
      List.Forall₂ SpellsChars (Text.wordsBy Text.isBlank cs) [['N', 'U', 'L', 'L']] := by
  constructor
  · intro found
    unfold endsInNull at found
    split at found
    · rename_i rest front
      obtain ⟨word, rfl, spelled⟩ := (afterKeyword?_eq_some_iff keywordLetters_null).1 front
      have blank : ∀ c ∈ rest, Text.isBlank c = true := List.all_eq_true.1 found
      have nonempty : word ≠ [] := by
        rintro rfl
        cases spelled
      rw [Text.wordsBy_append nonempty (spelled.solid keywordLetters_null)
        (fun c front => blank c (List.mem_of_mem_head? front)), Text.wordsBy_eq_nil_iff.2 blank]
      exact .cons spelled .nil
    · cases found
  · intro all
    obtain ⟨word, later, spelled, others, split⟩ := List.forall₂_cons_right_iff.1 all
    obtain ⟨rest, front, -, known⟩ := Text.of_wordsBy_eq_cons split
    rw [trimmed] at front
    rw [List.forall₂_nil_right_iff.1 others] at known
    have blank := Text.wordsBy_eq_nil_iff.1 known
    rw [endsInNull, (afterKeyword?_eq_some_iff keywordLetters_null).2 ⟨word, front, spelled⟩]
    exact List.all_eq_true.2 blank

/-- Characters are a bare null test exactly when their words say so. -/
theorem isBareChars_iff (cs : List Char) :
    isBareChars cs = true ↔
      List.Forall₂ SpellsChars (Text.wordsBy Text.isBlank cs) [['I', 'S'], ['N', 'U', 'L', 'L']] ∨
      List.Forall₂ SpellsChars (Text.wordsBy Text.isBlank cs)
        [['I', 'S'], ['N', 'O', 'T'], ['N', 'U', 'L', 'L']] := by
  have opening (more : List (List Char)) (some : more ≠ []) :=
    spelled_cons_iff keywordLetters_is nofun (trimmed_dropWhile cs) some
  have negation {rest : List Char} (trimmed : Trimmed rest) :=
    spelled_cons_iff keywordLetters_not nofun trimmed (List.cons_ne_nil ['N', 'U', 'L', 'L'] [])
  rw [← Text.wordsBy_dropWhile cs, opening _ (List.cons_ne_nil _ _),
    opening _ (List.cons_ne_nil _ _), isBareChars]
  constructor
  · intro bare
    split at bare
    · cases bare
    · rename_i rest found
      have trimmed := trimmed_of_found found
      split at bare
      · rename_i tail negated
        have last := (endsInNull_iff (trimmed_of_found negated)).1 bare
        exact .inr ⟨rest, found, (negation trimmed).2 ⟨tail, negated, last⟩⟩
      · exact .inl ⟨rest, found, (endsInNull_iff trimmed).1 bare⟩
  · rintro (⟨rest, found, last⟩ | ⟨rest, found, others⟩)
    · have trimmed := trimmed_of_found found
      rw [found]
      dsimp only
      cases negated : afterNot? rest with
      | none => exact (endsInNull_iff trimmed).2 last
      | some tail =>
        -- the second word would be both NOT and NULL
        obtain ⟨word, not, split⟩ := words_of_found keywordLetters_not nofun negated
        rw [split] at last
        cases last with
        | cons null _ => exact absurd (not.length_eq.symm.trans null.length_eq) (by decide)
    · obtain ⟨tail, negated, last⟩ := (negation (trimmed_of_found found)).1 others
      rw [found]
      dsimp only
      rw [afterNot?, negated]
      exact (endsInNull_iff (trimmed_of_found negated)).2 last

end Words

/-- A text is a bare null test exactly when its words say so. -/
theorem isBare_iff (s : String) : isBare s = true ↔ NullWords s := by
  have spelled (keywords : List String) :
      List.Forall₂ Spells (Text.words s) keywords ↔
        List.Forall₂ SpellsChars (Text.wordsBy Text.isBlank s.toList)
          (keywords.map String.toList) := by
    rw [Text.words, List.forall₂_map_left_iff, List.forall₂_map_right_iff]
    simp only [Spells, String.toList_ofList]
  rw [NullWords, spelled, spelled, isBare, isBareChars_iff]
  rfl

/-! ## The weaker test -/

/-- A text in which null is mentioned at the end mentions it. -/
theorem mentionsNullChars_of_suffix {xs ys : List Char} (h : ys <:+ xs)
    (mentions : mentionsNullChars ys = true) : mentionsNullChars xs = true := by
  obtain ⟨front, rfl⟩ := h
  induction front with
  | nil => exact mentions
  | cons c front ih => rw [List.cons_append, mentionsNullChars, ih, Bool.or_true]

/-- The keyword NULL is null in small letters. -/
theorem map_toLower_of_spells {word : List Char} (null : SpellsChars word ['N', 'U', 'L', 'L']) :
    word.map Char.toLower = nullLetters := by
  have small : (['N', 'U', 'L'].all fun k => (caseForms k).all fun c =>
      c.toLower == k.toLower) = true := by
    decide
  have lower {word keyword : List Char} (plain : ∀ k ∈ keyword, k ∈ ['N', 'U', 'L'])
      (spelled : SpellsChars word keyword) :
      word.map Char.toLower = keyword.map Char.toLower := by
    induction spelled with
    | nil => rfl
    | cons form _ ih =>
      obtain ⟨letter, others⟩ := List.forall_mem_cons.1 plain
      rw [List.map_cons, List.map_cons, beq_iff_eq.1 (of_all_all small letter form), ih others]
  exact lower (by simp) null

/-- The keyword NULL in front mentions null. -/
theorem mentionsNullChars_of_spells {word : List Char}
    (null : SpellsChars word ['N', 'U', 'L', 'L']) (rest : List Char) :
    mentionsNullChars (word ++ rest) = true := by
  have letters := map_toLower_of_spells null
  have four : word.length = 4 := null.length_eq
  cases word with
  | nil => cases four
  | cons c cs =>
    have front : (c :: (cs ++ rest)).take 4 = c :: cs := by
      rw [← List.cons_append, ← four, List.take_left']
      rfl
    rw [List.cons_append, mentionsNullChars, front, letters]
    rfl

/-- Each keyword is spelled by one of the words. -/
theorem exists_spelled {words keywords : List String} (all : List.Forall₂ Spells words keywords)
    {keyword : String} (h : keyword ∈ keywords) : ∃ word ∈ words, Spells word keyword := by
  induction all with
  | nil => cases h
  | cons spelled _ ih =>
    rcases List.mem_cons.1 h with rfl | later
    · exact ⟨_, List.mem_cons_self, spelled⟩
    · obtain ⟨word, member, known⟩ := ih later
      exact ⟨word, List.mem_cons_of_mem _ member, known⟩

/-- A bare null test mentions null. -/
theorem mentionsNull_of_nullWords {s : String} (h : NullWords s) : mentionsNull s = true := by
  obtain ⟨word, member, spelled⟩ : ∃ word ∈ Text.words s, Spells word "NULL" := by
    rcases h with two | three
    · exact exists_spelled two (by decide)
    · exact exists_spelled three (by decide)
  obtain ⟨cs, among, rfl⟩ := List.mem_map.1 member
  rw [Spells, String.toList_ofList] at spelled
  obtain ⟨rest, suffix⟩ := Text.exists_suffix_of_mem_wordsBy among
  exact mentionsNullChars_of_suffix suffix (mentionsNullChars_of_spells spelled rest)

end SqlBuilder.NullTest
