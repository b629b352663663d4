import SqlBuilder.Proofs.NamedBinding

/-!
# What named binds can be read back to

Naming the placeholders of a text puts a backslash before a colon that starts a bind, but a colon
that already has one stays as it is, so `:a` and `\:a` become the same. A placeholder right behind a
colon or a backslash becomes characters that could have stood there. Nothing else is lost: where
every placeholder stands free, `recover` reads the rewritten text back, up to the backslashes that
the rewriting would have put there itself. It keeps the character of the original before the one it
reads, as the rewriting does; an unescaped colon before a word can then only be a placeholder, whose
name is as long as its number says.
-/

set_option autoImplicit false

namespace SqlBuilder.Sql

/-- Whether some characters begin with a colon and a word. -/
def startsColonWord : List Char → Bool
  | [] => false
  | c :: cs => c == ':' && startsWord cs

/-- Whether a character is a backslash before a colon that would start a bind without it. -/
def isEscape (before : Option Char) (c : Char) (cs : List Char) : Bool :=
  c == '\\' && !shieldsColon before && startsColonWord cs

/-- The characters without the backslashes before colons that would start a bind. -/
def dropEscapes : Option Char → List Char → List Char
  | _, [] => []
  | before, c :: cs =>
    let later := dropEscapes (some c) cs
    if isEscape before c cs then later else c :: later

/-- A text without the backslashes before colons that would start a bind. -/
def withoutEscapes (sql : String) : String :=
  String.ofList (dropEscapes none sql.toList)

/-- Whether no placeholder stands right behind a colon or a backslash. -/
def freeFrom : Option Char → Quoting → List Char → Bool
  | _, _, [] => true
  | before, quoting, c :: cs =>
    !(quoting.marks c && shieldsColon before) && freeFrom (some c) (quoting.step c) cs

/-- No placeholder of a text stands right behind a colon or a backslash. -/
def PlaceholdersFree (sql : String) : Prop :=
  freeFrom none none sql.toList = true

/-- A scan decides whether the placeholders of a text stand free. -/
instance (sql : String) : Decidable (PlaceholdersFree sql) :=
  inferInstanceAs (Decidable (_ = true))

/-- The characters that are read back, when the next bind has a given number and so many characters
of a name are still to be passed over. -/
def recoverFrom : Option Char → Nat → Nat → List Char → List Char
  | _, _, _, [] => []
  | before, number, passing + 1, _ :: cs => recoverFrom before number passing cs
  | before, number, 0, c :: cs =>
    if c == ':' && !shieldsColon before && startsWord cs then
      '?' :: recoverFrom (some '?') (number + 1) (bindName number).toList.length cs
    else if isEscape before c cs then recoverFrom (some c) number 0 cs
    else c :: recoverFrom (some c) number 0 cs

/-- The text that a rewritten text is read back to. -/
def recover (sql : String) : String :=
  String.ofList (recoverFrom none 0 0 sql.toList)

/-! ## The beginning of a rewritten text -/

/-- A rewritten text begins with a word exactly when the text does. -/
theorem startsWord_nameFrom (before : Option Char) (quoting : Quoting) (number : Nat)
    (cs : List Char) : startsWord (nameFrom before quoting number cs) = startsWord cs := by
  cases cs with
  | nil => rfl
  | cons c cs =>
    rw [nameFrom]
    split
    · rename_i marked
      simp only [Quoting.marks, Bool.and_eq_true, beq_iff_eq] at marked
      rw [marked.2]
      exact (by decide : Text.isWordChar ':' = Text.isWordChar '?')
    · split
      · rename_i escaped
        simp only [Bool.and_eq_true, beq_iff_eq] at escaped
        rw [escaped.1.1]
        exact (by decide : Text.isWordChar '\\' = Text.isWordChar ':')
      · rfl

/-- Behind a backslash a rewritten text begins with a colon and a word exactly when the text does,
unless it begins with a placeholder. -/
theorem startsColonWord_nameFrom {quoting : Quoting} {cs : List Char}
    (free : freeFrom (some '\\') quoting cs = true) (number : Nat) :
    startsColonWord (nameFrom (some '\\') quoting number cs) = startsColonWord cs := by
  cases cs with
  | nil => rfl
  | cons c cs =>
    have shielded : shieldsColon (some '\\') = true := by decide
    have unmarked : quoting.marks c = false := by
      simp only [freeFrom, shielded, Bool.and_true, Bool.and_eq_true, Bool.not_eq_true'] at free
      exact free.1
    rw [nameFrom, unmarked, shielded, Bool.not_true, Bool.and_false, Bool.false_and,
      if_neg Bool.false_ne_true, if_neg Bool.false_ne_true]
    rw [startsColonWord, startsColonWord, startsWord_nameFrom]

/-- Behind a colon or a backslash nothing is dropped at first. -/
theorem startsWord_dropEscapes {before : Option Char} (shielded : shieldsColon before = true)
    (cs : List Char) : startsWord (dropEscapes before cs) = startsWord cs := by
  cases cs with
  | nil => rfl
  | cons c cs =>
    rw [dropEscapes, isEscape, shielded]
    simp [startsWord]

/-! ## Backslashes that the rewriting would have put there -/

/-- An escape is a backslash before a colon that would start a bind without it. -/
theorem of_isEscape {before : Option Char} {c : Char} {cs : List Char}
    (h : isEscape before c cs = true) :
    c = '\\' ∧ shieldsColon before = false ∧ ∃ rest, cs = ':' :: rest ∧ startsWord rest = true := by
  simp only [isEscape, Bool.and_eq_true, beq_iff_eq, Bool.not_eq_true'] at h
  obtain ⟨⟨backslash, exposed⟩, colon⟩ := h
  cases cs with
  | nil => cases colon
  | cons first rest =>
    simp only [startsColonWord, Bool.and_eq_true, beq_iff_eq] at colon
    obtain ⟨rfl, word⟩ := colon
    exact ⟨backslash, exposed, rest, rfl, word⟩

/-- A colon that starts a bind becomes what it is behind a backslash. -/
theorem nameFrom_colon {before : Option Char} (exposed : shieldsColon before = false)
    {cs : List Char} (word : startsWord cs = true) (quoting : Quoting) (number : Nat) :
    nameFrom before quoting number (':' :: cs) =
      '\\' :: nameFrom (some '\\') quoting number (':' :: cs) := by
  have unmarked : quoting.marks ':' = false := quoting.marks_of_not_isScanned (by decide)
  have shielded : shieldsColon (some '\\') = true := by decide
  rw [nameFrom, nameFrom, unmarked, exposed, shielded, word]
  rfl

section Rewriting

variable {quoting : Quoting} (h : quoting.Regular) (before : Option Char) (number : Nat)
  (cs : List Char)

include h

/-- A backslash is no placeholder, and the scan goes on where it is. -/
theorem Quoting.backslash : quoting.marks '\\' = false ∧ quoting.step '\\' = quoting :=
  ⟨quoting.marks_of_not_isScanned (by decide), Quoting.step_of_not_isScanned h (by decide)⟩

/-- A backslash stays as it is and shields what follows. -/
theorem nameFrom_backslash :
    nameFrom before quoting number ('\\' :: cs) =
      '\\' :: nameFrom (some '\\') quoting number cs := by
  obtain ⟨unmarked, kept⟩ := Quoting.backslash h
  have noColon : ('\\' == ':') = false := by decide
  rw [nameFrom, unmarked, kept, noColon, Bool.false_and, Bool.false_and,
    if_neg Bool.false_ne_true, if_neg Bool.false_ne_true]

/-- Without its escapes a text is rewritten to the same. -/
theorem nameFrom_dropEscapes :
    nameFrom before quoting number (dropEscapes before cs) =
      nameFrom before quoting number cs := by
  induction cs generalizing before quoting number with
  | nil => rfl
  | cons c cs ih =>
    rw [dropEscapes]
    by_cases escape : isEscape before c cs = true
    · rw [if_pos escape]
      obtain ⟨rfl, exposed, rest, rfl, word⟩ := of_isEscape escape
      have dropped : dropEscapes (some '\\') (':' :: rest) = ':' :: dropEscapes (some ':') rest :=
        rfl
      have follows : startsWord (dropEscapes (some ':') rest) = true := by
        rw [startsWord_dropEscapes (by decide), word]
      -- The colon that is left gets its backslash back.
      rw [nameFrom_backslash h, ← ih h, dropped, nameFrom_colon exposed follows]
    · have same : (c == ':' && !shieldsColon before && startsWord (dropEscapes (some c) cs)) =
          (c == ':' && !shieldsColon before && startsWord cs) := by
        by_cases colon : c = ':'
        · rw [colon, startsWord_dropEscapes (by decide)]
        · rw [beq_eq_false_iff_ne.2 colon, Bool.false_and, Bool.false_and, Bool.false_and]
      rw [if_neg escape, nameFrom, nameFrom, same, ih (h.step c), ih (h.step c)]

/-- Without its escapes a text has as many placeholders. -/
theorem length_placeholdersFrom_dropEscapes (start offset : Nat) :
    (placeholdersFrom quoting start (dropEscapes before cs)).length =
      (placeholdersFrom quoting offset cs).length := by
  induction cs generalizing before quoting start offset with
  | nil => rfl
  | cons c cs ih =>
    rw [dropEscapes]
    by_cases escape : isEscape before c cs = true
    · rw [if_pos escape]
      obtain ⟨rfl, -⟩ := of_isEscape escape
      obtain ⟨unmarked, kept⟩ := Quoting.backslash h
      rw [placeholdersFrom, unmarked, kept]
      exact ih h (some '\\') start (offset + 1)
    · rw [if_neg escape, placeholdersFrom, placeholdersFrom]
      have later := ih (h.step c) (some c) (start + 1) (offset + 1)
      split
      · exact congrArg (· + 1) later
      · exact later

end Rewriting

/-- Naming the placeholders does not tell a text from the one without its escapes. -/
theorem toNamedBinds_withoutEscapes (sql : String) :
    toNamedBinds (withoutEscapes sql) = toNamedBinds sql := by
  have chars : (withoutEscapes sql).toList = dropEscapes none sql.toList := String.toList_ofList
  rw [toNamedBinds_eq, toNamedBinds_eq, placeholderPositions, placeholderPositions, chars,
    nameFrom_dropEscapes Quoting.regular_none,
    length_placeholdersFrom_dropEscapes Quoting.regular_none none sql.toList 0 0]

/-! ## Reading back -/

/-- The characters of a name are passed over. -/
theorem recoverFrom_append (before : Option Char) (number : Nat) (xs ys : List Char) :
    recoverFrom before number xs.length (xs ++ ys) = recoverFrom before number 0 ys := by
  induction xs with
  | nil => rfl
  | cons x xs ih => exact ih

section Exposed

variable {before : Option Char} (exposed : shieldsColon before = false) (number : Nat)
  (cs : List Char)

include exposed

/-- A bind is read back to a placeholder. -/
theorem recoverFrom_bind :
    recoverFrom before number 0 (':' :: (bindName number).toList ++ cs) =
      '?' :: recoverFrom (some '?') (number + 1) 0 cs := by
  rw [List.cons_append, recoverFrom, exposed, startsWord_bindName, recoverFrom_append]
  rfl

/-- An escaped colon is read back to the colon. -/
theorem recoverFrom_escaped {cs : List Char} (word : startsWord cs = true) :
    recoverFrom before number 0 ('\\' :: ':' :: cs) =
      ':' :: recoverFrom (some ':') number 0 cs := by
  have escape : isEscape before '\\' (':' :: cs) = true := by
    rw [isEscape, exposed, startsColonWord, word]
    rfl
  have noColon : ('\\' == ':') = false := by decide
  rw [recoverFrom, noColon, Bool.false_and, Bool.false_and, if_neg Bool.false_ne_true,
    if_pos escape]
  rfl

end Exposed

/-- What characters with free placeholders are rewritten to is read back to them, without their
escapes. -/
theorem recoverFrom_nameFrom {before : Option Char} {quoting : Quoting} {cs : List Char}
    (free : freeFrom before quoting cs = true) (number : Nat) :
    recoverFrom before number 0 (nameFrom before quoting number cs) = dropEscapes before cs := by
  induction cs generalizing before quoting number with
  | nil => rfl
  | cons c cs ih =>
    rw [freeFrom, Bool.and_eq_true, Bool.not_eq_true'] at free
    obtain ⟨apart, later⟩ := free
    rw [nameFrom, dropEscapes]
    by_cases marked : quoting.marks c = true
    · -- The placeholder stands free, so nothing shields the colon of its bind.
      rw [marked, Bool.true_and] at apart
      have placeholder : c = '?' := by
        simp only [Quoting.marks, Bool.and_eq_true, beq_iff_eq] at marked
        exact marked.2
      subst placeholder
      rw [if_pos marked, recoverFrom_bind apart, ih later]
      rfl
    · rw [if_neg marked]
      by_cases escaped : (c == ':' && !shieldsColon before && startsWord cs) = true
      · rw [if_pos escaped]
        simp only [Bool.and_eq_true, beq_iff_eq, Bool.not_eq_true'] at escaped
        obtain ⟨⟨rfl, exposed⟩, word⟩ := escaped
        rw [recoverFrom_escaped exposed number ((startsWord_nameFrom _ _ _ _).trans word), ih later]
        rfl
      · have escape : isEscape before c (nameFrom (some c) (quoting.step c) number cs) =
            isEscape before c cs := by
          by_cases backslash : c = '\\'
          · subst backslash
            rw [isEscape, isEscape, startsColonWord_nameFrom later]
          · rw [isEscape, isEscape, beq_eq_false_iff_ne.2 backslash, Bool.false_and,
              Bool.false_and, Bool.false_and]
        rw [if_neg escaped, recoverFrom, startsWord_nameFrom, if_neg escaped, escape, ih later]

/-- A text with free placeholders is read back from its rewriting, without its escapes. -/
theorem recover_toNamedBinds {sql : String} (free : PlaceholdersFree sql) :
    recover (toNamedBinds sql).1 = withoutEscapes sql := by
  rw [recover, toNamedBinds_eq, String.toList_ofList, recoverFrom_nameFrom free, withoutEscapes]

/-- Two texts whose placeholders stand free are rewritten alike exactly when they are the same
without their escapes, the backslashes before colons that would start a bind; each is read back to
that. So texts without escapes that are rewritten alike are the same. -/
theorem named_binds_recoverable {s t : String} (hs : PlaceholdersFree s)
    (ht : PlaceholdersFree t) :
    recover (toNamedBinds s).1 = withoutEscapes s ∧
      (toNamedBinds s = toNamedBinds t ↔ withoutEscapes s = withoutEscapes t) ∧
      (withoutEscapes s = s → withoutEscapes t = t → toNamedBinds s = toNamedBinds t → s = t) := by
  have same : toNamedBinds s = toNamedBinds t ↔ withoutEscapes s = withoutEscapes t := by
    constructor
    · intro rewritten
      rw [← recover_toNamedBinds hs, ← recover_toNamedBinds ht, rewritten]
    · intro plain
      rw [← toNamedBinds_withoutEscapes s, ← toNamedBinds_withoutEscapes t, plain]
  refine ⟨recover_toNamedBinds hs, same, fun plain plain' rewritten => ?_⟩
  rw [← plain, ← plain']
  exact same.1 rewritten

/-- A text with a cast, a time and a bind in literals and two placeholders is read back as it was,
and escapes make no difference to its rewriting. -/
theorem named_binds_recoverable_literals :
    let plain := "a::date > ? AND b = '12:30 :p0?' AND c = ?"
    let escaped := "a::date > ? AND b = '12\\:30 \\:p0?' AND c = ?"
    recover (toNamedBinds plain).1 = plain ∧ toNamedBinds plain = toNamedBinds escaped := by
  intro plain escaped
  obtain ⟨read, same, -⟩ := named_binds_recoverable (s := plain) (t := escaped) (by decide +kernel)
    (by decide +kernel)
  exact ⟨read.trans (by decide +kernel), same.2 (by decide +kernel)⟩

/-- Different texts are rewritten alike: a colon with and without a backslash, and a placeholder
behind a colon and the characters it becomes. -/
theorem named_binds_collide :
    toNamedBinds "SELECT ':a'" = toNamedBinds "SELECT '\\:a'" ∧
      "SELECT ':a'" ≠ "SELECT '\\:a'" ∧
      toNamedBinds ":? ::p0" = toNamedBinds "::p0 :?" ∧ ":? ::p0" ≠ "::p0 :?" := by
  decide +kernel

end SqlBuilder.Sql

/-! ## Compiled statements -/

namespace SqlBuilder

open Layout (Scanned Adjacent scanned_of_placeholdersFrom)
open Sql

/-- The placeholders of a layout stand free, since its holes stand behind spaces and brackets. -/
theorem Layout.freeFrom_chars {quoting : Quoting} {l : Layout} (scanned : Scanned quoting l)
    (chain : l.IsChain Adjacent) {before : Option Char}
    (ready : ∀ p ∈ l.head?, p.isHole = true → shieldsColon before = false) :
    freeFrom before quoting l.chars = true := by
  induction l generalizing quoting before with
  | nil => rfl
  | cons p rest ih =>
    obtain ⟨marks, later⟩ := scanned
    obtain ⟨adjacent, chain⟩ := List.isChain_cons.1 chain
    have unfolded : chars (p :: rest) = p.shown :: chars rest := rfl
    have ready' : ∀ q ∈ rest.head?, q.isHole = true → shieldsColon (some p.shown) = false := by
      intro q hq hole
      rcases (adjacent q hq).1 hole with rfl | rfl <;> decide
    rw [unfolded, freeFrom, ih later chain ready', Bool.and_true, marks, Bool.not_eq_true']
    cases hole : p.isHole with
    | false => rfl
    | true => exact ready p rfl hole

variable {d : Driver}

/-- The placeholders of what a program with neutral texts compiles stand free, so its rewriting is
read back to it without its escapes. -/
theorem compiled_recoverable (options : Options) (session : Option (Session d))
    (program : List Call) (emptyGroup : Neutral options.emptyGroup)
    (clean : Call.ProgramClean neutralTexts program (.blank options session)) (data : Value)
    (keys : neutralTexts.KeysHold data) {compiled : Compiled}
    (compiles :
      (Call.attempt program (.blank options session)).2.state.Compiles data compiled) :
    PlaceholdersFree compiled.sql ∧
      recover (toNamedBinds compiled.sql).1 = withoutEscapes compiled.sql := by
  have sound := Call.attempt_sound program (.blank options session)
    ⟨emptyGroup, State.sound_empty⟩ clean
  obtain ⟨l, spaced, aligned, rfl⟩ := sound.state.compiled keys compiles
  have scanned : Scanned none l := scanned_of_placeholdersFrom (aligned.found 0)
  have free : PlaceholdersFree l.compiled.sql := by
    have text : l.compiled.sql.toList = l.chars := String.toList_ofList
    rw [PlaceholdersFree, text]
    exact Layout.freeFrom_chars scanned spaced.chain fun _ _ _ => rfl
  exact ⟨free, recover_toNamedBinds free⟩

end SqlBuilder
