import SqlBuilder.Text.Blank
import SqlBuilder.Text.Quoted
import SqlBuilder.Text.Upper

/-!
# Classes of texts decided by punctuation

Whether a text is closed with respect to its quotes, or with respect to its brackets, depends only
on the quotes, the brackets and the question marks in it, in their order. The builder trims texts,
puts their words one space apart and turns them to upper case before it writes them. None of this
touches punctuation, so a class of texts that punctuation decides is kept by all three. A
`TextClass` is such a class.
-/

set_option autoImplicit false

namespace SqlBuilder

namespace Text

/-- The punctuation that classes of texts may look at. -/
def punctuation : List Char := ['\'', '"', '?', '(', ')']

/-- Characters that are no punctuation, as a computation shows. -/
theorem notMem_punctuation_of_all {cs : List Char} (h : cs.all (!punctuation.contains ·) = true) :
    ∀ c ∈ cs, c ∉ punctuation := by
  intro c hc marked
  have none := List.all_eq_true.1 h c hc
  rw [List.contains_iff_mem.2 marked] at none
  cases none

/-- A blank is no punctuation. -/
theorem notMem_punctuation_of_isBlank {c : Char} (h : isBlank c = true) : c ∉ punctuation := by
  intro hc
  simp only [punctuation, List.mem_cons, List.not_mem_nil, or_false] at hc
  rcases hc with rfl | rfl | rfl | rfl | rfl <;> revert h <;> decide

/-- A letter or a digit of ASCII is no punctuation. -/
theorem notMem_punctuation_of_isAlphanum {c : Char} (h : c.isAlphanum = true) :
    c ∉ punctuation := by
  intro hc
  simp only [punctuation, List.mem_cons, List.not_mem_nil, or_false] at hc
  rcases hc with rfl | rfl | rfl | rfl | rfl <;> revert h <;> decide

/-- A character beyond the question mark is no punctuation. -/
theorem notMem_punctuation_of_lt {c : Char} (h : 63 < c.toNat) : c ∉ punctuation := by
  intro hc
  simp only [punctuation, List.mem_cons, List.not_mem_nil, or_false] at hc
  rcases hc with rfl | rfl | rfl | rfl | rfl <;> revert h <;> decide

/-! ## Trimming and words -/

section Lists

variable {α : Type} {p separates : α → Bool}

/-- Leading separators do not matter to what ignores separators. -/
theorem filter_dropWhile_of_ignores (h : ∀ x, separates x = true → p x = false) (xs : List α) :
    (xs.dropWhile separates).filter p = xs.filter p := by
  induction xs with
  | nil => rfl
  | cons x xs ih =>
    by_cases hx : separates x = true
    · rw [List.dropWhile_cons_of_pos hx, ih, List.filter_cons_of_neg (by simp [h x hx])]
    · rw [List.dropWhile_cons_of_neg hx]

/-- Trimming keeps everything that is no separator. -/
theorem filter_trimBy (h : ∀ x, separates x = true → p x = false) (xs : List α) :
    (trimBy separates xs).filter p = xs.filter p := by
  rw [trimBy, trimLeftBy, List.filter_reverse, filter_dropWhile_of_ignores h, List.filter_reverse,
    List.reverse_reverse, trimLeftBy, filter_dropWhile_of_ignores h]

/-- The words of a list hold everything that is no separator. -/
theorem filter_flatten_wordsBy (h : ∀ x, separates x = true → p x = false) (xs : List α) :
    (wordsBy separates xs).flatten.filter p = xs.filter p := by
  induction xs with
  | nil => rfl
  | cons x xs ih =>
    rw [wordsBy.eq_def]
    by_cases hx : separates x = true
    · simp only [hx, if_true]
      rw [ih, List.filter_cons_of_neg (by simp [h x hx])]
    · simp only [hx, Bool.false_eq_true, if_false]
      split
      · rfl
      · split
        · rw [List.flatten_cons, List.singleton_append, List.filter_cons, ih, ← List.filter_cons]
        · split
          · rename_i found
            rw [found] at ih
            simp only [List.flatten_cons, List.flatten_nil, List.append_nil, List.filter_cons,
              List.filter_nil] at ih ⊢
            rw [← ih]
          · rename_i found
            rw [found] at ih
            rw [List.flatten_cons, List.cons_append, ← List.flatten_cons, List.filter_cons, ih,
              ← List.filter_cons]

end Lists

section Texts

variable {p : Char → Bool} (h : ∀ c, p c = true → c ∈ punctuation)

include h

/-- What counts as punctuation is no blank. -/
theorem eq_false_of_isBlank {c : Char} (hc : isBlank c = true) : p c = false :=
  Bool.eq_false_iff.2 fun hp => notMem_punctuation_of_isBlank hc (h c hp)

/-- Trimming a text keeps its punctuation. -/
theorem filter_trim (s : String) : (trim s).toList.filter p = s.toList.filter p := by
  rw [trim, String.toList_ofList, filter_trimBy fun c hc => eq_false_of_isBlank h hc]

/-- Texts one space apart have the punctuation of the texts one after another. -/
theorem filter_intercalate_space (texts : List String) :
    (String.intercalate " " texts).toList.filter p =
      (texts.map String.toList).flatten.filter p := by
  have space : p ' ' = false := eq_false_of_isBlank h (by decide)
  induction texts with
  | nil => rfl
  | cons first rest ih =>
    cases rest with
    | nil => simp
    | cons second more =>
      rw [String.intercalate_cons_cons, String.toList_append, String.toList_append,
        List.filter_append, ih, List.map_cons, List.flatten_cons, List.filter_append]
      simp [space]

/-- Putting the words of a text one space apart keeps its punctuation. -/
theorem filter_words (s : String) :
    (String.intercalate " " (words s)).toList.filter p = s.toList.filter p := by
  rw [filter_intercalate_space h, words, List.map_map]
  have same : String.toList ∘ String.ofList = id := funext fun _ => String.toList_ofList
  rw [same, List.map_id, filter_flatten_wordsBy fun c hc => eq_false_of_isBlank h hc]

end Texts

/-! ## Upper case -/

/-- A character made from a number beyond the question mark is no punctuation. -/
theorem ofNat_notMem_punctuation {n : Nat} (h : 63 < n) : Char.ofNat n ∉ punctuation := by
  by_cases valid : n.isValidChar
  · apply notMem_punctuation_of_lt
    rw [Char.ofNat, dif_pos valid]
    exact h
  · rw [Char.ofNat, dif_neg valid]
    decide

/-- No letter expands to punctuation. -/
theorem upperExpansions_beyond :
    ∀ entry ∈ upperExpansions, ∀ code ∈ entry.2, 63 < code := by
  decide

/-- No letter is shifted to punctuation. -/
theorem upperShifts_beyond : ∀ entry ∈ upperShifts, 63 < (entry.1 : Int) + entry.2.2.2 := by
  decide +kernel

/-- The upper-case form of a character beyond ASCII has no punctuation. -/
theorem notMem_punctuation_of_mem_upperBeyondAscii {c d : Char} (hc : ¬ c.toNat < 0x80)
    (hd : d ∈ upperBeyondAscii c) : d ∉ punctuation := by
  unfold upperBeyondAscii at hd
  split at hd
  · rename_i codes found
    obtain ⟨code, member, rfl⟩ := List.mem_map.1 hd
    exact ofNat_notMem_punctuation
      (upperExpansions_beyond _ (List.mem_of_find?_eq_some found) code member)
  · dsimp only at hd
    split at hd
    · rename_i first last step distance found
      rw [List.mem_singleton.1 hd]
      have range := List.find?_some found
      have beyond : 63 < (first : Int) + distance :=
        upperShifts_beyond _ (List.mem_of_find?_eq_some found)
      simp only [Bool.and_eq_true, decide_eq_true_eq] at range
      exact ofNat_notMem_punctuation (by omega)
    · rw [List.mem_singleton.1 hd]
      exact notMem_punctuation_of_lt (by omega)

/-- Upper case keeps a character, or it turns a letter into a letter. -/
theorem toUpper_eq_or_notMem (c : Char) :
    c.toUpper = c ∨ c ∉ punctuation ∧ c.toUpper ∉ punctuation := by
  unfold Char.toUpper
  split
  · rename_i lower
    have least : 97 ≤ c.val.toNat := lower.1
    have greatest : c.val.toNat ≤ 122 := lower.2
    have shifted : (c.val + ('A'.val - 'a'.val)).toNat = c.val.toNat - 32 := by
      rw [UInt32.toNat_add, show ('A'.val - 'a'.val).toNat = 2 ^ 32 - 32 from rfl]
      omega
    refine .inr ⟨notMem_punctuation_of_lt (by rw [Char.toNat]; omega),
      notMem_punctuation_of_lt ?_⟩
    rw [Char.toNat, shifted]
    omega
  · exact .inl rfl

section Texts

variable {p : Char → Bool} (h : ∀ c, p c = true → c ∈ punctuation)

include h

/-- The upper-case form of a character has its punctuation. -/
theorem filter_upperChar (c : Char) : (upperChar c).filter p = [c].filter p := by
  have none {d : Char} (hd : d ∉ punctuation) : p d = false :=
    Bool.eq_false_iff.2 fun hp => hd (h d hp)
  unfold upperChar
  split
  -- Of the ASCII characters only letters change, and those are no punctuation before or after.
  · rcases toUpper_eq_or_notMem c with same | ⟨before, after⟩
    · rw [same]
    · rw [List.filter_cons_of_neg (by simp [none after]),
        List.filter_cons_of_neg (by simp [none before])]
  · rename_i hc
    have beyond : c ∉ punctuation := notMem_punctuation_of_lt (by omega)
    rw [List.filter_cons_of_neg (by simp [none beyond]), List.filter_nil, List.filter_eq_nil_iff]
    intro d hd
    simp [none (notMem_punctuation_of_mem_upperBeyondAscii hc hd)]

/-- Upper case keeps the punctuation of a text. -/
theorem filter_upper (s : String) : (upper s).toList.filter p = s.toList.filter p := by
  rw [upper, String.toList_ofList, upperChars]
  induction s.toList with
  | nil => rfl
  | cons c cs ih =>
    rw [List.flatMap_cons, List.filter_append, ih, filter_upperChar h, ← List.filter_append,
      List.singleton_append]

end Texts

/-! ## Bytes in quotes -/

/-- A hexadecimal digit is no punctuation. -/
theorem hexDigit_notMem_punctuation (value : Nat) : hexDigit value ∉ punctuation := by
  have digits : ∀ n < 16, Nat.digitChar n ∉ punctuation := by decide
  exact digits _ (Nat.mod_lt _ (by decide))

/-- Hexadecimal digits are no punctuation. -/
theorem notMem_punctuation_of_mem_hexDigits {width value : Nat} {c : Char}
    (h : c ∈ hexDigits width value) : c ∉ punctuation := by
  induction width generalizing value with
  | zero => exact absurd h List.not_mem_nil
  | succ width ih =>
    rcases List.mem_append.1 h with earlier | last
    · exact ih earlier
    · rw [List.mem_singleton.1 last]
      exact hexDigit_notMem_punctuation value

/-- The escape by number has no punctuation. -/
theorem notMem_punctuation_of_mem_numericEscape {code : Nat} {c : Char}
    (h : c ∈ numericEscape code) : c ∉ punctuation := by
  unfold numericEscape at h
  split at h
  all_goals try split at h
  all_goals
    rcases List.mem_cons.1 h with rfl | h
    · decide
    rcases List.mem_cons.1 h with rfl | h
    · decide
    exact notMem_punctuation_of_mem_hexDigits h

/-- A character that is no punctuation stands inside quotes without any. -/
theorem notMem_punctuation_of_mem_escapeChar {quote c d : Char} {shown : Bool}
    (hc : c ∉ punctuation) (hd : d ∈ escapeChar quote shown c) : d ∉ punctuation := by
  unfold escapeChar at hd
  split at hd
  · rcases List.mem_cons.1 hd with rfl | hd
    · decide
    · exact List.mem_singleton.1 hd ▸ hc
  all_goals try split at hd
  all_goals try split at hd
  all_goals try split at hd
  all_goals try split at hd
  all_goals first
    | exact List.mem_singleton.1 hd ▸ hc
    | exact notMem_punctuation_of_mem_numericEscape hd
    | (simp only [List.mem_cons, List.not_mem_nil, or_false] at hd
       rcases hd with rfl | rfl <;> decide)

/-- The character of a byte. -/
def byteChar (byte : UInt8) : Char :=
  Char.ofNat byte.toNat

section Texts

variable {p : Char → Bool} (h : ∀ c, p c = true → c ∈ punctuation)

include h

/-- Escaping leaves only the marks that punctuation has inside quotes. -/
theorem filter_flatMap_escapeChar (quote : Char) (shown : Char → Bool) (cs : List Char) :
    (cs.flatMap fun c => escapeChar quote (shown c) c).filter p =
      ((cs.filter (· ∈ punctuation)).flatMap fun c => escapeChar quote (shown c) c).filter p := by
  induction cs with
  | nil => rfl
  | cons c cs ih =>
    rw [List.flatMap_cons, List.filter_append, ih]
    by_cases hc : c ∈ punctuation
    · rw [List.filter_cons_of_pos (by simpa using hc), List.flatMap_cons, List.filter_append]
    · have silent : (escapeChar quote (shown c) c).filter p = [] := by
        rw [List.filter_eq_nil_iff]
        intro d hd hp
        exact notMem_punctuation_of_mem_escapeChar hc hd (h d hp)
      rw [silent, List.nil_append, List.filter_cons_of_neg (by simpa using hc)]

/-- The marks of bytes in quotes depend only on the punctuation among the bytes. -/
theorem filter_quotedBytes_congr (escaped : Char → Char) {xs ys : List UInt8}
    (same : (xs.map byteChar).filter (· ∈ punctuation) =
      (ys.map byteChar).filter (· ∈ punctuation)) :
    (quotedBytes escaped xs).toList.filter p = (quotedBytes escaped ys).toList.filter p := by
  have contains (zs : List UInt8) {q : Char} (hq : q ∈ punctuation) :
      (zs.map byteChar).contains q = ((zs.map byteChar).filter (· ∈ punctuation)).contains q := by
    rw [Bool.eq_iff_iff]
    simp [hq]
  have named : (fun byte : UInt8 => Char.ofNat byte.toNat) = byteChar := rfl
  simp only [quotedBytes, named, String.toList_ofList, List.filter_append]
  rw [contains xs (by decide), contains xs (by decide), contains ys (by decide),
    contains ys (by decide), same]
  rw [filter_flatMap_escapeChar h, same, ← filter_flatMap_escapeChar h]

end Texts

end Text

/-! ## Classes of texts -/

/-- A class of texts that some of the punctuation decides. It is closed under putting texts one
after another and under brackets around a text. -/
structure TextClass where
  /-- The punctuation that decides. -/
  isMark : Char → Bool
  /-- The texts of the class. -/
  Holds : String → Prop
  /-- Only punctuation decides. -/
  mem_punctuation : ∀ c, isMark c = true → c ∈ Text.punctuation
  /-- Quotes decide. -/
  isMark_quote : isMark '\'' = true ∧ isMark '"' = true
  /-- The empty text is in the class. -/
  holds_empty : Holds ""
  /-- Texts with the same marks are in the class together. -/
  holds_congr : ∀ {s t : String},
    s.toList.filter isMark = t.toList.filter isMark → Holds s → Holds t
  /-- Two texts in a row are in the class if both are. -/
  holds_append : ∀ {s t : String}, Holds s → Holds t → Holds (s ++ t)
  /-- Brackets keep a text in the class. -/
  holds_bracketed : ∀ {s : String}, Holds s → Holds ("(" ++ s ++ ")")

namespace TextClass

variable (T : TextClass)

/-- The marks of a text, in their order. -/
def marks (s : String) : List Char :=
  s.toList.filter T.isMark

/-- A text without marks. -/
def Plain (s : String) : Prop :=
  T.marks s = []

/-- The marks of texts in a row are those of the first and then those of the second. -/
@[simp] theorem marks_append (s t : String) : T.marks (s ++ t) = T.marks s ++ T.marks t := by
  rw [marks, String.toList_append, List.filter_append, marks, marks]

/-- Trimming takes no marks away. -/
@[simp] theorem marks_trim (s : String) : T.marks (Text.trim s) = T.marks s :=
  Text.filter_trim T.mem_punctuation s

/-- Single spaces between words take no marks away and add none. -/
@[simp] theorem marks_words (s : String) :
    T.marks (String.intercalate " " (Text.words s)) = T.marks s :=
  Text.filter_words T.mem_punctuation s

/-- Upper case takes no marks away and adds none. -/
@[simp] theorem marks_upper (s : String) : T.marks (Text.upper s) = T.marks s :=
  Text.filter_upper T.mem_punctuation s

variable {T}

/-- A text is in the class together with every text that has its marks. -/
theorem holds_of_marks {s t : String} (same : T.marks s = T.marks t) (h : T.Holds s) :
    T.Holds t :=
  T.holds_congr same h

/-- A text without marks is in the class. -/
theorem Plain.holds {s : String} (h : T.Plain s) : T.Holds s :=
  holds_of_marks (T := T) (s := "") (by rw [h]; rfl) T.holds_empty

/-- A text without punctuation has no marks. -/
theorem plain_of_notMem {s : String} (h : ∀ c ∈ s.toList, c ∉ Text.punctuation) : T.Plain s := by
  rw [Plain, marks, List.filter_eq_nil_iff]
  intro c hc marked
  exact h c hc (T.mem_punctuation c marked)

/-- A text without punctuation has no marks, where a computation shows that it has none. -/
theorem plain_of_all {s : String} (h : s.toList.all (!Text.punctuation.contains ·) = true) :
    T.Plain s :=
  plain_of_notMem (Text.notMem_punctuation_of_all h)

/-- Two texts in a row have no marks if neither has. -/
theorem Plain.append {s t : String} (hs : T.Plain s) (ht : T.Plain t) : T.Plain (s ++ t) := by
  rw [Plain, marks_append, hs, ht, List.append_nil]

/-- A part of a text without marks has none. -/
theorem Plain.of_sublist {s : String} (h : T.Plain s) {cs : List Char}
    (sub : cs.Sublist s.toList) : T.Plain (String.ofList cs) := by
  rw [Plain, marks, String.toList_ofList, List.filter_eq_nil_iff]
  intro c hc
  exact List.filter_eq_nil_iff.1 h c (sub.subset hc)

/-- A word of a text without marks has none. -/
theorem Plain.of_mem_words {s word : String} (h : T.Plain s) (hw : word ∈ Text.words s) :
    T.Plain word := by
  obtain ⟨cs, member, rfl⟩ := List.mem_map.1 hw
  have all : (Text.wordsBy Text.isBlank s.toList).flatten.filter T.isMark = [] := by
    rw [Text.filter_flatten_wordsBy fun c hc => Text.eq_false_of_isBlank T.mem_punctuation hc]
    exact h
  rw [Plain, marks, String.toList_ofList, List.filter_eq_nil_iff]
  intro c hc
  exact List.filter_eq_nil_iff.1 all c (List.mem_flatten_of_mem member hc)

end TextClass

end SqlBuilder
