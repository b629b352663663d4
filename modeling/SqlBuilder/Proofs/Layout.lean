import Mathlib.Data.List.Chain
import SqlBuilder.Proofs.Punctuation
import SqlBuilder.Statement.Assembly

/-!
# Layouts

SQL text with its values is a row of places: each place shows a character of the text or holds a
value, which is shown as a question mark. A `Layout` gives back the text, the values and the offsets
of the holes, so text and values that come from one layout cannot disagree.
-/

set_option autoImplicit false

namespace SqlBuilder

/-- A place of SQL text. -/
inductive Place where
  /-- A character of the text. -/
  | char (c : Char)
  /-- A hole for a bound value. -/
  | hole (v : Value)

namespace Place

/-- The character that a place shows. -/
def shown : Place → Char
  | char c => c
  | hole _ => '?'

/-- The value that a place holds. -/
def value? : Place → Option Value
  | char _ => none
  | hole v => some v

/-- Whether a place holds a value. -/
def isHole : Place → Bool
  | char _ => false
  | hole _ => true

end Place

/-- Places in a row. -/
abbrev Layout := List Place

namespace Layout

/-- The characters of a layout. -/
def chars (l : Layout) : List Char :=
  l.map Place.shown

/-- The text of a layout. -/
def text (l : Layout) : String :=
  String.ofList l.chars

/-- The values in the holes, from left to right. -/
def values (l : Layout) : List Value :=
  l.filterMap Place.value?

/-- The text of a layout with its values. -/
def compiled (l : Layout) : Sql.Compiled :=
  ⟨l.text, l.values⟩

/-- The offsets of the holes, when the first place has a given offset. -/
def offsetsFrom : Nat → Layout → List Nat
  | _, [] => []
  | offset, .char _ :: rest => offsetsFrom (offset + 1) rest
  | offset, .hole _ :: rest => offset :: offsetsFrom (offset + 1) rest

/-- The offsets of the holes, from left to right. -/
def offsets (l : Layout) : List Nat :=
  offsetsFrom 0 l

/-- The layout of a text without holes. -/
def ofText (s : String) : Layout :=
  s.toList.map .char

/-- Holes with commas between them. -/
def listed : List Value → Layout
  | [] => []
  | [v] => [.hole v]
  | v :: rest => .hole v :: ofText ", " ++ listed rest

/-- A layout after some words, or nothing for an empty one. -/
def after (words : String) (l : Layout) : Layout :=
  if l.isEmpty then [] else ofText words ++ l

/-! ## Text and values -/

/-- The characters of layouts in a row are those of the first and then those of the second. -/
@[simp] theorem chars_append (a b : Layout) : chars (a ++ b) = chars a ++ chars b :=
  List.map_append

/-- The text of layouts in a row is that of the first and then that of the second. -/
@[simp] theorem text_append (a b : Layout) : text (a ++ b) = text a ++ text b := by
  rw [text, chars_append, String.ofList_append, text, text]

/-- A layout without holes has the characters of its text. -/
@[simp] theorem chars_ofText (s : String) : chars (ofText s) = s.toList := by
  rw [chars, ofText, List.map_map]
  exact List.map_id _

/-- A layout without holes has the text that it is made of. -/
@[simp] theorem text_ofText (s : String) : text (ofText s) = s := by
  rw [text, chars_ofText, String.ofList_toList]

/-- The values of layouts in a row are those of the first and then those of the second. -/
@[simp] theorem values_append (a b : Layout) : values (a ++ b) = values a ++ values b :=
  List.filterMap_append

/-- A layout without holes holds no values. -/
@[simp] theorem values_ofText (s : String) : values (ofText s) = [] := by
  rw [values, ofText, List.filterMap_map]
  exact List.filterMap_eq_nil_iff.2 fun _ _ => rfl

/-- A hole shows a placeholder. -/
@[simp] theorem text_hole (v : Value) : text [.hole v] = "?" := rfl

/-- A hole holds its value. -/
@[simp] theorem values_hole (v : Value) : values [.hole v] = [v] := rfl

/-- Only the empty layout has an empty text. -/
theorem text_isEmpty (l : Layout) : l.text.isEmpty = l.isEmpty := by
  rw [Bool.eq_iff_iff, String.isEmpty_iff, List.isEmpty_iff, text, chars]
  constructor
  · intro empty
    rw [← String.toList_inj, String.toList_ofList] at empty
    exact List.map_eq_nil_iff.1 empty
  · intro empty
    rw [empty]
    rfl

/-- The holes of a list show as placeholders. -/
theorem text_listed (vs : List Value) : text (listed vs) = Sql.placeholders vs.length := by
  induction vs with
  | nil => rfl
  | cons v rest ih =>
    cases rest with
    | nil => rfl
    | cons w more =>
      have split : listed (v :: w :: more) = [.hole v] ++ ofText ", " ++ listed (w :: more) := rfl
      rw [split, text_append, text_append, ih, text_hole, text_ofText]
      simp only [Sql.placeholders, commaSeparated, List.length_cons, List.replicate_succ,
        String.intercalate_cons_cons]

/-- The holes of a list hold its values. -/
theorem values_listed (vs : List Value) : values (listed vs) = vs := by
  induction vs with
  | nil => rfl
  | cons v rest ih =>
    cases rest with
    | nil => rfl
    | cons w more =>
      have split : listed (v :: w :: more) = [.hole v] ++ ofText ", " ++ listed (w :: more) := rfl
      rw [split, values_append, values_append, ih, values_hole, values_ofText]
      rfl

/-- Words before a layout are those before its text. -/
theorem text_after (words : String) (l : Layout) :
    text (after words l) = unlessEmpty words l.text := by
  rw [after, unlessEmpty, text_isEmpty]
  split
  · rfl
  · rw [text_append, text_ofText]

/-- Words before a layout add no value. -/
theorem values_after (words : String) (l : Layout) : values (after words l) = values l := by
  rw [after]
  split
  · rename_i empty
    rw [List.isEmpty_iff.1 empty]
  · rw [values_append, values_ofText, List.nil_append]

/-- There is one offset for each value. -/
theorem length_offsetsFrom (offset : Nat) (l : Layout) :
    (offsetsFrom offset l).length = l.values.length := by
  induction l generalizing offset with
  | nil => rfl
  | cons p rest ih =>
    cases p with
    | char c => exact ih (offset + 1)
    | hole v => exact congrArg (· + 1) (ih (offset + 1))

/-- The offsets of two layouts in a row. -/
theorem offsetsFrom_append (offset : Nat) (a b : Layout) :
    offsetsFrom offset (a ++ b) =
      offsetsFrom offset a ++ offsetsFrom (offset + a.length) b := by
  induction a generalizing offset with
  | nil => rfl
  | cons p rest ih =>
    have further : offset + 1 + rest.length = offset + (rest.length + 1) := by omega
    cases p with
    | char c =>
      rw [List.cons_append, offsetsFrom, ih, offsetsFrom, List.length_cons, further]
    | hole v =>
      rw [List.cons_append, offsetsFrom, ih, offsetsFrom, List.length_cons, further,
        List.cons_append]

/-- A text has no holes. -/
@[simp] theorem offsetsFrom_ofText (offset : Nat) (s : String) :
    offsetsFrom offset (ofText s) = [] := by
  rw [ofText]
  induction s.toList generalizing offset with
  | nil => rfl
  | cons c cs ih => exact ih (offset + 1)

/-! ## Spacing -/

/-- A character is no hole. -/
theorem of_isHole_char {c : Char} {P : Prop} (h : (Place.char c).isHole = true) : P := by
  cases h

/-- Whether two places may stand side by side: before a hole stands a space or an opening bracket,
after it a space, a comma or a closing bracket. -/
def Adjacent (a b : Place) : Prop :=
  (b.isHole = true → a = .char ' ' ∨ a = .char '(') ∧
    (a.isHole = true → b = .char ' ' ∨ b = .char ',' ∨ b = .char ')')

/-- A layout can follow a hole: it is empty, or it begins with a space, a comma or a closing
bracket. -/
def Closing (l : Layout) : Prop :=
  ∀ p ∈ l.head?, p = .char ' ' ∨ p = .char ',' ∨ p = .char ')'

/-- A layout begins with no hole and keeps its holes apart from the text around them. -/
structure Spaced (l : Layout) : Prop where
  /-- Neighbours may stand side by side. -/
  chain : l.IsChain Adjacent
  /-- No hole comes first. -/
  head : ∀ p ∈ l.head?, p.isHole = false

/-- Nothing can follow a hole. -/
theorem closing_nil : Closing [] :=
  fun _ hp => by cases hp

/-- A text that begins with a space, a comma or a closing bracket can follow a hole. -/
theorem closing_ofText {s : String} {c : Char} {cs : List Char} (h : s.toList = c :: cs)
    (hc : c = ' ' ∨ c = ',' ∨ c = ')') (l : Layout) : Closing (ofText s ++ l) := by
  intro p hp
  rw [ofText, h] at hp
  rw [← Option.some.inj hp]
  rcases hc with rfl | rfl | rfl
  · exact .inl rfl
  · exact .inr (.inl rfl)
  · exact .inr (.inr rfl)

/-- A closing bracket can follow a hole. -/
theorem closing_bracket : Closing (ofText ")") := by
  intro p hp
  exact .inr (.inr (Option.some.inj hp).symm)

/-- Words that begin with a space can follow a hole, together with what comes after them. -/
theorem closing_after {words : String} {cs : List Char} (h : words.toList = ' ' :: cs)
    (l : Layout) : Closing (after words l) := by
  rw [after]
  split
  · exact closing_nil
  · exact closing_ofText h (.inl rfl) l

/-- Two layouts in a row can follow a hole if both can. -/
theorem Closing.append {a b : Layout} (ha : Closing a) (hb : Closing b) : Closing (a ++ b) := by
  cases a with
  | nil => exact hb
  | cons p rest => exact ha

/-- The empty layout is spaced. -/
theorem spaced_nil : Spaced [] :=
  ⟨.nil, fun _ hp => by cases hp⟩

/-- A text is spaced. -/
theorem spaced_ofText (s : String) : Spaced (ofText s) := by
  rw [ofText]
  refine ⟨?_, ?_⟩
  · induction s.toList with
    | nil => exact .nil
    | cons c cs ih =>
      rw [List.map_cons, List.isChain_cons]
      refine ⟨?_, ih⟩
      intro p hp
      obtain ⟨d, -, rfl⟩ := List.mem_map.1 (List.mem_of_mem_head? hp)
      exact ⟨of_isHole_char, of_isHole_char⟩
  · intro p hp
    obtain ⟨d, -, rfl⟩ := List.mem_map.1 (List.mem_of_mem_head? hp)
    rfl

/-- Spaced layouts are spaced in a row when the second can follow a hole. -/
theorem Spaced.append {a b : Layout} (ha : Spaced a) (hb : Spaced b) (closing : Closing b) :
    Spaced (a ++ b) := by
  refine ⟨List.isChain_append.2 ⟨ha.chain, hb.chain, ?_⟩, ?_⟩
  · intro p _ q hq
    refine ⟨?_, fun _ => closing q hq⟩
    intro hole
    rw [hb.head q hq] at hole
    cases hole
  · cases a with
    | nil => exact hb.head
    | cons p rest => exact ha.head

/-- A spaced layout is spaced after a text. -/
theorem Spaced.after_text {l : Layout} (h : Spaced l) (s : String) : Spaced (ofText s ++ l) := by
  refine ⟨List.isChain_append.2 ⟨(spaced_ofText s).chain, h.chain, ?_⟩, ?_⟩
  · intro p hp q hq
    obtain ⟨c, -, rfl⟩ := List.mem_map.1 (List.mem_of_mem_getLast? hp)
    refine ⟨?_, of_isHole_char⟩
    intro hole
    rw [h.head q hq] at hole
    cases hole
  · cases hs : ofText s with
    | nil => exact h.head
    | cons p rest =>
      have first := (spaced_ofText s).head
      rwa [hs] at first

/-- Words before a spaced layout leave it spaced. -/
theorem Spaced.after {l : Layout} (h : Spaced l) (words : String) : Spaced (after words l) := by
  rw [Layout.after]
  split
  · exact spaced_nil
  · exact h.after_text words

/-- A hole is spaced after a space. -/
theorem spaced_hole (v : Value) : Spaced (ofText " " ++ [.hole v]) := by
  refine ⟨?_, ?_⟩
  · exact .cons_cons ⟨fun _ => .inl rfl, of_isHole_char⟩ (.singleton _)
  · intro p hp
    rw [← Option.some.inj hp]
    rfl

/-- Brackets around a spaced layout leave it spaced. -/
theorem Spaced.bracketed {l : Layout} (h : Spaced l) : Spaced (ofText "(" ++ (l ++ ofText ")")) :=
  (h.append (spaced_ofText ")") closing_bracket).after_text "("

/-- Listed holes keep apart from what stands around them. -/
theorem isChain_listed {p : Place} (hp : p = .char ' ' ∨ p = .char '(') (vs : List Value) :
    (p :: (listed vs ++ ofText ")")).IsChain Adjacent := by
  have solid : p.isHole = false := by
    rcases hp with rfl | rfl <;> rfl
  induction vs generalizing p with
  | nil => exact .cons_cons ⟨of_isHole_char, by simp [solid]⟩ (.singleton _)
  | cons v rest ih =>
    have here : Adjacent p (.hole v) := ⟨fun _ => hp, by simp [solid]⟩
    cases rest with
    | nil =>
      have bracket : Adjacent (.hole v) (.char ')') :=
        ⟨of_isHole_char, fun _ => .inr (.inr rfl)⟩
      exact .cons_cons here (.cons_cons bracket (.singleton _))
    | cons w more =>
      have comma : Adjacent (.hole v) (.char ',') :=
        ⟨of_isHole_char, fun _ => .inr (.inl rfl)⟩
      have space : Adjacent (.char ',') (.char ' ') :=
        ⟨of_isHole_char, of_isHole_char⟩
      exact .cons_cons here (.cons_cons comma (.cons_cons space (ih (.inl rfl) rfl)))

/-- Listed holes are spaced in brackets. -/
theorem spaced_listed (vs : List Value) : Spaced (ofText "(" ++ (listed vs ++ ofText ")")) := by
  refine ⟨isChain_listed (.inr rfl) vs, ?_⟩
  intro p hp
  rw [← Option.some.inj hp]
  rfl

end Layout

end SqlBuilder
