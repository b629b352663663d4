import SqlBuilder.Proofs.MutationLayout
import SqlBuilder.Proofs.OnePass

/-!
# Named binds of compiled statements

A database finds bind parameters in a text by their colons, also inside literals. In the rewritten
text of a compiled statement the colons that it finds are exactly those of the placeholders, in
their order, each with its own name: colons of texts and literals are escaped or shielded by what
stands before them, and the text around a placeholder can neither swallow its colon nor lengthen its
name, since a placeholder stands between spaces, commas and brackets.
-/

set_option autoImplicit false

namespace SqlBuilder

open Layout (ofText Aligned Spaced Adjacent offsetsFrom)
open Sql

/-! ## Colons that start binds -/

namespace Sql

/-- A colon that starts a bind. -/
structure BindColon where
  /-- Where it is. -/
  offset : Nat
  /-- The word that follows it. -/
  word : List Char
  /-- Whether a colon follows the word. -/
  colonFollows : Bool

/-- The colons in a text that a word follows and neither a colon, a backslash nor a word character
precedes. -/
def bindColons : Option Char → Nat → List Char → List BindColon
  | _, _, [] => []
  | before, offset, c :: cs =>
    let later := bindColons (some c) (offset + 1) cs
    if c == ':' && admitsBind before && startsWord cs then
      ⟨offset, cs.takeWhile Text.isWordChar,
        (cs.dropWhile Text.isWordChar).head? == some ':'⟩ :: later
    else later

/-- The last of some characters, or what precedes them. -/
def lastOr (before : Option Char) : List Char → Option Char
  | [] => before
  | c :: cs => lastOr (some c) cs

/-- A character that starts no bind is passed over. -/
theorem bindColons_cons (before : Option Char) {c : Char} (cs : List Char)
    (h : c = ':' → admitsBind before = true → startsWord cs = false) (offset : Nat) :
    bindColons before offset (c :: cs) = bindColons (some c) (offset + 1) cs ∧
      bindWords before (c :: cs) = bindWords (some c) cs := by
  have passed : (c == ':' && admitsBind before && startsWord cs) = false := by
    by_cases colon : c = ':'
    · by_cases admits : admitsBind before = true
      · rw [h colon admits, Bool.and_false]
      · rw [Bool.eq_false_iff.2 admits, Bool.and_false, Bool.false_and]
    · rw [beq_eq_false_iff_ne.2 colon, Bool.false_and, Bool.false_and]
  constructor
  · rw [bindColons, passed]
    rfl
  · rw [bindWords, passed]
    rfl

/-- Characters among which there is no colon are passed over. -/
theorem bindColons_append {xs : List Char} (h : ':' ∉ xs) (before : Option Char) (offset : Nat)
    (ys : List Char) :
    bindColons before offset (xs ++ ys) =
        bindColons (lastOr before xs) (offset + xs.length) ys ∧
      bindWords before (xs ++ ys) = bindWords (lastOr before xs) ys := by
  induction xs generalizing before offset with
  | nil => exact ⟨rfl, rfl⟩
  | cons c cs ih =>
    have other : c ≠ ':' := fun same => h (same ▸ List.mem_cons_self)
    obtain ⟨colons, words⟩ := bindColons_cons before (cs ++ ys)
      (fun same => absurd same other) offset
    obtain ⟨laterColons, laterWords⟩ :=
      ih (fun member => h (List.mem_cons_of_mem _ member)) (some c) (offset + 1)
    rw [List.cons_append, colons, words, laterColons, laterWords, List.length_cons, Nat.add_assoc,
      Nat.add_comm 1]
    exact ⟨rfl, rfl⟩

/-- A digit belongs to a word. -/
theorem isWordChar_of_isDigit {c : Char} (h : c.isDigit = true) : Text.isWordChar c = true := by
  have ascii : c.toNat < 0x80 := by
    simp only [Char.isDigit, Bool.and_eq_true, decide_eq_true_eq] at h
    have greatest : c.val.toNat ≤ 57 := h.2
    rw [Char.toNat]
    omega
  rw [Text.isWordChar, if_pos ascii, Char.isAlphanum, h, Bool.or_true, Bool.true_or]

/-- The characters of a bind name: a letter and digits. -/
theorem toList_bindName (number : Nat) :
    (bindName number).toList = 'p' :: Nat.toDigits 10 number := by
  have digits : (toString number).toList = Nat.toDigits 10 number := by
    rw [Nat.toString_eq_ofList_toDigits, String.toList_ofList]
  rw [bindName, String.toList_append, digits]
  rfl

/-- A bind name consists of word characters. -/
theorem isWordChar_of_mem_bindName {number : Nat} {c : Char} (h : c ∈ (bindName number).toList) :
    Text.isWordChar c = true := by
  rw [toList_bindName] at h
  rcases List.mem_cons.1 h with rfl | digit
  · decide
  · exact isWordChar_of_isDigit (Nat.isDigit_of_mem_toDigits (by decide) (by decide) digit)

/-- A bind name holds no colon. -/
theorem colon_notMem_bindName (number : Nat) : ':' ∉ (bindName number).toList := by
  intro h
  exact absurd (isWordChar_of_mem_bindName h) (by decide)

/-- A bind name begins a word. -/
theorem startsWord_bindName (number : Nat) (cs : List Char) :
    startsWord ((bindName number).toList ++ cs) = true := by
  rw [toList_bindName]
  exact (by decide : Text.isWordChar 'p' = true)

/-- The colon of a named placeholder starts a bind with its name, if a space or a bracket precedes
it and no word or colon follows. -/
theorem bindColons_bindName {before : Option Char} (hb : admitsBind before = true) {cs : List Char}
    (word : startsWord cs = false) (colon : cs.head? ≠ some ':') (number offset : Nat) :
    bindColons before offset (':' :: ((bindName number).toList ++ cs)) =
        ⟨offset, (bindName number).toList, false⟩ :: bindColons
          (lastOr (some ':') (bindName number).toList)
          (offset + 1 + (bindName number).toList.length) cs ∧
      bindWords before (':' :: ((bindName number).toList ++ cs)) =
        (bindName number).toList :: bindWords (lastOr (some ':') (bindName number).toList) cs := by
  have starts := startsWord_bindName number cs
  have name : ∀ c ∈ (bindName number).toList, Text.isWordChar c = true :=
    fun c hc => isWordChar_of_mem_bindName hc
  have noWord : cs.takeWhile Text.isWordChar = [] := by
    cases cs with
    | nil => rfl
    | cons c rest => exact List.takeWhile_cons_of_neg (by simpa [startsWord] using word)
  have run : ((bindName number).toList ++ cs).takeWhile Text.isWordChar =
      (bindName number).toList := by
    rw [List.takeWhile_append_of_pos name, noWord, List.append_nil]
  have rest : ((bindName number).toList ++ cs).dropWhile Text.isWordChar = cs := by
    rw [List.dropWhile_append_of_pos name]
    cases cs with
    | nil => rfl
    | cons c rest => exact List.dropWhile_cons_of_neg (by simpa [startsWord] using word)
  obtain ⟨colons, words⟩ :=
    bindColons_append (colon_notMem_bindName number) (some ':') (offset + 1) cs
  constructor
  · rw [bindColons, hb, starts, run, rest, beq_eq_false_iff_ne.2 colon, colons]
    rfl
  · rw [bindWords, hb, starts, run, rest, words]
    cases cs with
    | nil => rfl
    | cons c rest =>
      have other : c ≠ ':' := fun same => colon (congrArg some same)
      simp [other]

end Sql

/-! ## Rewritten layouts -/

namespace Layout

/-- The scan of a layout, from a given literal on, takes each hole and no character for a
placeholder. -/
def Scanned : Quoting → Layout → Prop
  | _, [] => True
  | quoting, p :: rest =>
    quoting.marks p.shown = p.isHole ∧ Scanned (quoting.step p.shown) rest

/-- The offsets of holes begin where the layout does. -/
theorem le_of_mem_offsetsFrom {offset o : Nat} {l : Layout} (h : o ∈ offsetsFrom offset l) :
    offset ≤ o := by
  induction l generalizing offset with
  | nil => cases h
  | cons p rest ih =>
    cases p with
    | char c => exact Nat.le_of_succ_le (ih h)
    | hole v =>
      rcases List.mem_cons.1 h with rfl | later
      · exact Nat.le_refl _
      · exact Nat.le_of_succ_le (ih later)

/-- The offsets of placeholders begin where the text does. -/
theorem le_of_mem_placeholdersFrom {quoting : Quoting} {offset o : Nat} {cs : List Char}
    (h : o ∈ placeholdersFrom quoting offset cs) : offset ≤ o := by
  rw [← Nat.add_zero offset, Sql.placeholdersFrom_add] at h
  obtain ⟨_, -, rfl⟩ := List.mem_map.1 h
  exact Nat.le_add_right _ _

/-- A scan that finds the holes takes each of them for a placeholder. -/
theorem scanned_of_placeholdersFrom {quoting : Quoting} {offset : Nat} {l : Layout}
    (h : placeholdersFrom quoting offset l.chars = offsetsFrom offset l) : Scanned quoting l := by
  induction l generalizing quoting offset with
  | nil => trivial
  | cons p rest ih =>
    have unfolded : placeholdersFrom quoting offset (chars (p :: rest)) =
        if quoting.marks p.shown then
          offset :: placeholdersFrom (quoting.step p.shown) (offset + 1) (chars rest)
        else placeholdersFrom (quoting.step p.shown) (offset + 1) (chars rest) := rfl
    rw [unfolded] at h
    cases p with
    | char c =>
      have unmarked : quoting.marks (Place.char c).shown = false := by
        -- An offset that is found here cannot be that of a later hole.
        by_contra marked
        rw [Bool.not_eq_false] at marked
        rw [marked, if_pos rfl, offsetsFrom] at h
        have later : offset ∈ offsetsFrom (offset + 1) rest := h ▸ List.mem_cons_self
        exact absurd (le_of_mem_offsetsFrom later) (Nat.not_succ_le_self offset)
      rw [unmarked] at h
      exact ⟨unmarked, ih h⟩
    | hole v =>
      have marked : quoting.marks (Place.hole v).shown = true := by
        by_contra unmarked
        rw [Bool.not_eq_true] at unmarked
        rw [unmarked, if_neg Bool.false_ne_true, offsetsFrom] at h
        have later : offset ∈ placeholdersFrom (quoting.step (Place.hole v).shown) (offset + 1)
            (chars rest) := h ▸ List.mem_cons_self
        exact absurd (le_of_mem_placeholdersFrom later) (Nat.not_succ_le_self offset)
      rw [marked, if_pos rfl, offsetsFrom] at h
      exact ⟨marked, ih (List.cons.inj h).2⟩

/-- A layout with named binds in its holes, numbered from `number` on, and with escaped colons;
`before` is the character that precedes it. -/
def named : Option Char → Nat → Layout → List Char
  | _, _, [] => []
  | before, number, .char c :: rest =>
    if c == ':' && !shieldsColon before && startsWord (chars rest) then
      '\\' :: c :: named (some c) number rest
    else c :: named (some c) number rest
  | _, number, .hole _ :: rest =>
    ':' :: (bindName number).toList ++ named (some '?') (number + 1) rest

/-- Rewriting the text of a layout names its holes. -/
theorem Scanned.nameFrom {quoting : Quoting} {l : Layout} (h : Scanned quoting l)
    (before : Option Char) (number : Nat) :
    Sql.nameFrom before quoting number l.chars = named before number l := by
  induction l generalizing quoting before number with
  | nil => rfl
  | cons p rest ih =>
    obtain ⟨marks, scanned⟩ := h
    have unfolded : chars (p :: rest) = p.shown :: chars rest := rfl
    have later (n : Nat) := ih scanned (some p.shown) n
    rw [unfolded, Sql.nameFrom, marks, later, later]
    cases p with
    | char c => rfl
    | hole v => rfl

/-- The first places of a layout are scanned as in the whole. -/
theorem Scanned.take {quoting : Quoting} {l : Layout} (h : Scanned quoting l) (count : Nat) :
    Scanned quoting (l.take count) := by
  induction l generalizing quoting count with
  | nil =>
    rw [List.take_nil]
    trivial
  | cons p rest ih =>
    cases count with
    | zero => trivial
    | succ less => exact ⟨h.1, ih h.2 less⟩

/-- A rewritten layout begins with a word exactly when the layout does. -/
theorem startsWord_named (before : Option Char) (number : Nat) (l : Layout) :
    startsWord (named before number l) = startsWord l.chars := by
  cases l with
  | nil => rfl
  | cons p rest =>
    cases p with
    | char c =>
      rw [named]
      split
      · rename_i escaped
        simp only [Bool.and_eq_true, beq_iff_eq] at escaped
        rw [escaped.1.1]
        exact (by decide : Text.isWordChar '\\' = Text.isWordChar ':')
      · rfl
    | hole v => exact (by decide : Text.isWordChar ':' = Text.isWordChar '?')

/-- Where the binds of a rewritten layout start, with their names. -/
def bindPlaces : Option Char → Nat → Nat → Layout → List BindColon
  | _, _, _, [] => []
  | before, offset, number, .char c :: rest =>
    if c == ':' && !shieldsColon before && startsWord (chars rest) then
      bindPlaces (some c) (offset + 2) number rest
    else bindPlaces (some c) (offset + 1) number rest
  | _, offset, number, .hole _ :: rest =>
    ⟨offset, (bindName number).toList, false⟩ ::
      bindPlaces (some '?') (offset + 1 + (bindName number).toList.length) (number + 1) rest

/-- An escaped character is passed over with its backslash. -/
theorem bindColons_escaped (last : Option Char) (c : Char) (cs : List Char) (offset : Nat) :
    bindColons last offset ('\\' :: c :: cs) = bindColons (some c) (offset + 2) cs ∧
      bindWords last ('\\' :: c :: cs) = bindWords (some c) cs := by
  have other : '\\' ≠ ':' := by decide
  obtain ⟨backslash, backslash'⟩ :=
    bindColons_cons last (c :: cs) (fun same => absurd same other) offset
  obtain ⟨colon, colon'⟩ :=
    bindColons_cons (some '\\') (c := c) cs (fun _ admits => by cases admits) (offset + 1)
  rw [backslash, backslash', colon, colon']
  exact ⟨rfl, rfl⟩

/-- A colon that needs no escape starts no bind: it is followed by no word, or it is shielded in the
text and so where it stands now. -/
theorem startsWord_of_kept {before last : Option Char} {c : Char} {rest : Layout} {number : Nat}
    (follows : last = before ∨ before = some '?')
    (kept : ¬ (c == ':' && !shieldsColon before && startsWord (chars rest)) = true) :
    c = ':' → admitsBind last = true → startsWord (named (some c) number rest) = false := by
  rintro rfl admits
  rw [startsWord_named]
  by_contra word
  rw [Bool.not_eq_false] at word
  have shielded : shieldsColon before = true := by simpa [word] using kept
  rcases follows with rfl | rfl
  · simp only [shieldsColon, Bool.or_eq_true, beq_iff_eq] at shielded
    rcases shielded with rfl | rfl <;> cases admits
  · cases shielded

/-- What follows a hole extends no word. -/
theorem startsWord_named_of_closing {l : Layout} (closing : Closing l) (before : Option Char)
    (number : Nat) : startsWord (named before number l) = false := by
  rw [startsWord_named]
  cases l with
  | nil => rfl
  | cons p rest =>
    have unworded : Text.isWordChar p.shown = false := by
      rcases closing p rfl with rfl | rfl | rfl <;> decide
    exact unworded

/-- What follows a hole begins with no colon. -/
theorem head_named_of_closing {l : Layout} (closing : Closing l) (before : Option Char)
    (number : Nat) : (named before number l).head? ≠ some ':' := by
  intro found
  cases l with
  | nil => cases found
  | cons p rest => rcases closing p rfl with rfl | rfl | rfl <;> cases found

/-- In a rewritten layout a database finds exactly the binds of the holes. -/
theorem bindColons_named {l : Layout} (chain : l.IsChain Adjacent) {before last : Option Char}
    (follows : last = before ∨ before = some '?')
    (ready : ∀ p ∈ l.head?, p.isHole = true → admitsBind last = true) (offset number : Nat) :
    bindColons last offset (named before number l) = bindPlaces before offset number l ∧
      bindWords last (named before number l) =
        (bindNamesFrom number l.values.length).map String.toList := by
  induction l generalizing before last offset number with
  | nil => exact ⟨rfl, rfl⟩
  | cons p rest ih =>
    obtain ⟨adjacent, later⟩ := List.isChain_cons.1 chain
    cases p with
    | char c =>
      have ready' : ∀ q ∈ rest.head?, q.isHole = true → admitsBind (some c) = true := by
        intro q hq hole
        rcases (adjacent q hq).1 hole with space | bracket
        · rw [Place.char.inj space]
          decide
        · rw [Place.char.inj bracket]
          decide
      have values : values (.char c :: rest) = values rest := rfl
      rw [named, bindPlaces, values]
      split
      · obtain ⟨passed, passed'⟩ := bindColons_escaped last c (named (some c) number rest) offset
        rw [passed, passed']
        exact ih later (.inl rfl) ready' (offset + 2) number
      · rename_i kept
        obtain ⟨passed, passed'⟩ := bindColons_cons last (named (some c) number rest)
          (startsWord_of_kept follows kept) offset
        rw [passed, passed']
        exact ih later (.inl rfl) ready' (offset + 1) number
    | hole v =>
      have values : values (.hole v :: rest) = v :: values rest := rfl
      have closing : Closing rest := fun q hq => (adjacent q hq).2 rfl
      have ready' : ∀ q ∈ rest.head?, q.isHole = true →
          admitsBind (lastOr (some ':') (bindName number).toList) = true := by
        intro q hq hole
        rcases closing q hq with rfl | rfl | rfl <;> cases hole
      obtain ⟨colons, words⟩ := bindColons_bindName (ready _ rfl rfl)
        (startsWord_named_of_closing closing (some '?') (number + 1))
        (head_named_of_closing closing (some '?') (number + 1)) number offset
      obtain ⟨laterColons, laterWords⟩ := ih later (.inr rfl) ready'
        (offset + 1 + (bindName number).toList.length) (number + 1)
      rw [named, bindPlaces, values, List.cons_append, colons, words, laterColons, laterWords]
      exact ⟨rfl, rfl⟩

/-- The offsets of the holes of a layout that stands further on. -/
theorem offsetsFrom_succ (offset : Nat) (l : Layout) :
    offsetsFrom (offset + 1) l = (offsetsFrom offset l).map (· + 1) := by
  induction l generalizing offset with
  | nil => rfl
  | cons p rest ih =>
    cases p with
    | char c => exact ih (offset + 1)
    | hole v => exact congrArg ((offset + 1) :: ·) (ih (offset + 1))

/-- Up to a hole a layout begins with a word exactly when the whole does. -/
theorem startsWord_take {l : Layout} {o : Nat} (h : o ∈ offsetsFrom 0 l) :
    startsWord (chars (l.take o)) = startsWord l.chars := by
  cases l with
  | nil => cases h
  | cons p rest =>
    cases p with
    | char c =>
      cases o with
      | zero =>
        have later : 0 ∈ offsetsFrom 1 rest := h
        exact absurd (le_of_mem_offsetsFrom later) (Nat.not_succ_le_zero 0)
      | succ o => rfl
    | hole v =>
      cases o with
      | zero => exact (by decide : false = Text.isWordChar '?')
      | succ o => rfl

/-- Each bind of a rewritten layout starts where the rewritten places before its hole end. -/
theorem bindPlaces_eq (before : Option Char) (offset number : Nat) (l : Layout) :
    bindPlaces before offset number l =
      ((offsetsFrom 0 l).zip (bindNamesFrom number l.values.length)).map fun bind =>
        ⟨offset + (named before number (l.take bind.1)).length, bind.2.toList, false⟩ := by
  induction l generalizing before offset number with
  | nil => rfl
  | cons p rest ih =>
    cases p with
    | char c =>
      have values : values (.char c :: rest) = values rest := rfl
      have further : offsetsFrom 0 (.char c :: rest) = (offsetsFrom 0 rest).map (· + 1) :=
        offsetsFrom_succ 0 rest
      rw [bindPlaces, ih, ih, values, further, List.zip_map_left, List.map_map]
      split
      all_goals
        rename_i escapes
        refine List.map_congr_left fun bind hbind => ?_
        have same := startsWord_take (List.of_mem_zip hbind).1
        simp only [Function.comp, Prod.map, id, List.take_succ_cons, named, same, escapes, if_true,
          if_false, List.length_cons, Bool.false_eq_true]
        rw [Nat.add_assoc]
        congr 2
        omega
    | hole v =>
      have values : values (.hole v :: rest) = v :: values rest := rfl
      have further : offsetsFrom 0 (.hole v :: rest) = 0 :: (offsetsFrom 0 rest).map (· + 1) :=
        congrArg (0 :: ·) (offsetsFrom_succ 0 rest)
      rw [bindPlaces, ih, values, further, List.length_cons, bindNamesFrom_succ,
        List.zip_cons_cons, List.map_cons, List.zip_map_left, List.map_map]
      refine congrArg₂ List.cons rfl (List.map_congr_left fun bind hbind => ?_)
      simp only [Function.comp, Prod.map, id, List.take_succ_cons, named, List.length_cons,
        List.length_append, List.cons_append]
      congr 1
      omega

end Layout

/-! ## Compiled statements -/

open Layout (Scanned named scanned_of_placeholdersFrom)

/-- Where the placeholders of a text are in its rewriting, with their names and no colons behind
them: each is where the rewriting of the text before it ends. -/
def Sql.namesInPlace (sql : String) : List BindColon :=
  ((placeholderPositions sql).zip (toNamedBinds sql).2).map fun bind =>
    ⟨(toNamedBinds (String.ofList (sql.toList.take bind.1))).1.length, bind.2.toList, false⟩

/-- Compiled SQL of a state: its SELECT, or a mutation with the data. -/
def State.Compiles (s : State) (data : Value) (compiled : Compiled) : Prop :=
  Except.ok compiled ∈ [s.compile, s.compileInsert data, s.compileUpdate data, s.compileDelete]

/-- Whatever is compiled has a layout whose holes stand apart from the text around them and are what
the scan finds. -/
theorem State.Sound.compiled {s : State} (sound : s.Sound neutralTexts) {data : Value}
    (keys : neutralTexts.KeysHold data) {compiled : Compiled} (h : s.Compiles data compiled) :
    ∃ l, Spaced l ∧ Aligned l ∧ compiled = l.compiled := by
  have mutated {mutation : Mutation}
      (h : ∃ l, LaidMutation neutralTexts s data mutation l ∧ compiled = l.compiled) :
      ∃ l, Spaced l ∧ Aligned l ∧ compiled = l.compiled := by
    obtain ⟨l, laid, written⟩ := h
    exact ⟨l, laid.spaced, laid.aligned, written⟩
  simp only [State.Compiles, List.mem_cons, List.not_mem_nil, or_false] at h
  rcases h with select | insert | update | delete
  · obtain ⟨l, laid, written⟩ := sound.laid select.symm
    exact ⟨l, laid.spaced, laid.aligned, written⟩
  · exact mutated (sound.writeSound.laidInsert keys insert.symm)
  · exact mutated (sound.writeSound.laidUpdate keys update.symm)
  · exact mutated (sound.writeSound.laidDelete delete.symm)

/-- The named text of a layout is its rewriting. -/
theorem Layout.Scanned.toNamedBinds_text {l : Layout} (h : Scanned none l) :
    (toNamedBinds l.text).1.toList = named none 0 l := by
  rw [toNamedBinds_eq, String.toList_ofList, Layout.text, String.toList_ofList, h.nameFrom]

variable {d : Driver}

/-- What a program with neutral texts compiles is rewritten to named binds faithfully. There is one
name for each value. The colons that a database takes for binds in the rewritten text are those of
the placeholders, in order, each followed by the name of its placeholder, and no colon follows
that. -/
theorem named_binds_faithful (options : Options) (session : Option (Session d))
    (program : List Call) (emptyGroup : Neutral options.emptyGroup)
    (clean : Call.ProgramClean neutralTexts program (.blank options session)) (data : Value)
    (keys : neutralTexts.KeysHold data) {compiled : Compiled}
    (compiles :
      (Call.attempt program (.blank options session)).2.state.Compiles data compiled) :
    (toNamedBinds compiled.sql).2 = (List.range compiled.params.length).map bindName ∧
      (placeholderPositions compiled.sql).length = compiled.params.length ∧
      bindColons none 0 (toNamedBinds compiled.sql).1.toList = namesInPlace compiled.sql ∧
      bindWords none (toNamedBinds compiled.sql).1.toList =
        (toNamedBinds compiled.sql).2.map String.toList := by
  have sound := Call.attempt_sound program (.blank options session)
    ⟨emptyGroup, State.sound_empty⟩ clean
  obtain ⟨l, spaced, aligned, rfl⟩ := sound.state.compiled keys compiles
  have positions : placeholderPositions l.compiled.sql = offsetsFrom 0 l :=
    aligned.placeholderPositions
  have count : (offsetsFrom 0 l).length = l.compiled.params.length :=
    Layout.length_offsetsFrom 0 l
  have names : (toNamedBinds l.compiled.sql).2 = bindNamesFrom 0 l.values.length := by
    rw [toNamedBinds_eq, positions, count]
    rfl
  have scanned : Scanned none l := scanned_of_placeholdersFrom (aligned.found 0)
  have rewritten : (toNamedBinds l.compiled.sql).1.toList = named none 0 l :=
    scanned.toNamedBinds_text
  have ready : ∀ p ∈ l.head?, p.isHole = true → admitsBind none = true := fun _ _ _ => rfl
  obtain ⟨colons, words⟩ := Layout.bindColons_named spaced.chain (.inl rfl) ready 0 0
  refine ⟨?_, ?_, ?_, ?_⟩
  · rw [names, bindNamesFrom_zero]
    rfl
  · rw [positions, count]
  · rw [rewritten, colons, Layout.bindPlaces_eq, namesInPlace, positions, names]
    refine List.map_congr_left fun bind _ => ?_
    have shown : l.compiled.sql.toList.take bind.1 = Layout.chars (l.take bind.1) := by
      rw [Layout.chars, List.map_take, ← Layout.chars]
      exact congrArg (List.take bind.1) String.toList_ofList
    have prefix_ : (toNamedBinds (String.ofList (l.compiled.sql.toList.take bind.1))).1.toList =
        named none 0 (l.take bind.1) := by
      rw [shown]
      exact (scanned.take bind.1).toNamedBinds_text
    rw [← String.length_toList, prefix_, Nat.zero_add]
  · rw [rewritten, words, names]

/-- A program whose texts hold colons: in a cast, in a literal and behind a backslash. -/
def colonProgram : List Call :=
  let text (s : String) : Arg := .value (.text s)
  [.readFrom (text "t") (.value .null),
    .require .rows (text "a::date") (text ">") (.value (.text "12:30")) (text "AND"),
    .require .rows (text "'\\:x :y?'") (text "LIKE") (.value (.int 1)) (text "AND")]

/-- The texts that the program interpolates are neutral. -/
theorem clean_colonProgram : Call.ProgramClean (d := Recording.driver) neutralTexts colonProgram
    (.blank {} none) := by
  have field {s : String} (h : Neutral s) : neutralTexts.FieldHolds (.text s) :=
    TextClass.fieldHolds_text h
  refine ⟨fun _ => ?_, ⟨field (by decide), field (by decide)⟩,
    ⟨field (by decide), field (by decide)⟩, trivial⟩
  exact (by decide : Neutral "t")

/-- The program compiles an UPDATE whose rewriting names three placeholders and no more. -/
theorem named_binds_faithful_colonProgram :
    ∃ compiled, (Call.attempt (d := Recording.driver) colonProgram
        (.blank {} none)).2.state.compileUpdate (.mapping [(.text "b", .text ":z")]) =
          .ok compiled ∧
      (toNamedBinds compiled.sql).1 =
        "UPDATE t SET b = :p0 WHERE a::date > :p1 AND '\\:x \\:y?' LIKE :p2" ∧
      bindWords none (toNamedBinds compiled.sql).1.toList =
        (toNamedBinds compiled.sql).2.map String.toList := by
  have keys : neutralTexts.KeysHold (.mapping [(.text "b", .text ":z")]) := by
    intro pairs found key hk
    rw [← Option.some.inj found] at hk
    rw [List.mem_singleton.1 hk]
    exact (by decide : Neutral "b")
  have text : ((Call.attempt (d := Recording.driver) colonProgram
      (.blank {} none)).2.state.compileUpdate
        (.mapping [(.text "b", .text ":z")])).toOption.map Compiled.sql =
      some "UPDATE t SET b = ? WHERE a::date > ? AND '\\:x :y?' LIKE ?" := by
    decide +kernel
  cases compiles : (Call.attempt (d := Recording.driver) colonProgram
      (.blank {} none)).2.state.compileUpdate (.mapping [(.text "b", .text ":z")]) with
  | error e =>
    rw [compiles] at text
    cases text
  | ok compiled =>
    rw [compiles] at text
    have sql : compiled.sql = "UPDATE t SET b = ? WHERE a::date > ? AND '\\:x :y?' LIKE ?" :=
      Option.some.inj text
    have updates : (Call.attempt (d := Recording.driver) colonProgram
        (.blank {} none)).2.state.Compiles (.mapping [(.text "b", .text ":z")]) compiled := by
      simp [State.Compiles, compiles]
    obtain ⟨-, -, -, words⟩ := named_binds_faithful {} none colonProgram (by decide)
      clean_colonProgram _ keys updates
    refine ⟨compiled, rfl, ?_, words⟩
    rw [sql]
    decide +kernel

end SqlBuilder
