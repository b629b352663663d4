import SqlBuilder.Proofs.Punctuation
import SqlBuilder.Condition.NullTest
import SqlBuilder.Statement.Basic

/-!
# The marks of displayed values

What a statement writes of a value is its display. Trimming a value and turning it to upper case
keep the marks of its display, also for byte strings, which are displayed in quotes and with
escapes. The numbers that a limit accepts and the bare tests for null are displayed without any
punctuation.
-/

set_option autoImplicit false

namespace SqlBuilder

open Number (Binary Decimal)

/-! ## Numbers -/

namespace Text

/-- Characters without punctuation. -/
def Unpunctuated (cs : List Char) : Prop :=
  ∀ c ∈ cs, c ∉ punctuation

/-- No characters have no punctuation. -/
@[simp] theorem unpunctuated_nil : Unpunctuated [] :=
  fun _ hc => absurd hc List.not_mem_nil

/-- A character that is no punctuation before others. -/
@[simp] theorem unpunctuated_cons {c : Char} {cs : List Char} :
    Unpunctuated (c :: cs) ↔ c ∉ punctuation ∧ Unpunctuated cs :=
  List.forall_mem_cons

/-- Characters in a row have no punctuation if neither part has. -/
@[simp] theorem unpunctuated_append {xs ys : List Char} :
    Unpunctuated (xs ++ ys) ↔ Unpunctuated xs ∧ Unpunctuated ys :=
  List.forall_mem_append

/-- A part of some characters has no punctuation that they do not have. -/
theorem Unpunctuated.of_sublist {xs ys : List Char} (h : Unpunctuated ys) (sub : xs.Sublist ys) :
    Unpunctuated xs :=
  fun c hc => h c (sub.subset hc)

/-- Zeros are no punctuation. -/
theorem unpunctuated_zeros (count : Nat) : Unpunctuated (List.replicate count '0') := by
  intro c hc
  rw [List.eq_of_mem_replicate hc]
  decide

/-- The digits of a number are no punctuation. -/
theorem unpunctuated_toDigits (n : Nat) : Unpunctuated (Nat.toDigits 10 n) := by
  intro c hc
  have digit : c.isDigit = true := Nat.isDigit_of_mem_toDigits (by decide) (by decide) hc
  apply notMem_punctuation_of_isAlphanum
  rw [Char.isAlphanum, digit, Bool.or_true]

/-- A natural number is written without punctuation. -/
theorem unpunctuated_toString_nat (n : Nat) : Unpunctuated (toString n).toList := by
  rw [Nat.toString_eq_ofList_toDigits, String.toList_ofList]
  exact unpunctuated_toDigits n

/-- An integer is written without punctuation. -/
theorem unpunctuated_toString_int (n : Int) : Unpunctuated (toString n).toList := by
  cases n with
  | ofNat n => exact unpunctuated_toString_nat n
  | negSucc n =>
    change Unpunctuated ("-" ++ toString (n + 1)).toList
    rw [String.toList_append, unpunctuated_append]
    exact ⟨by simp [punctuation], unpunctuated_toString_nat (n + 1)⟩

end Text

open Text (Unpunctuated unpunctuated_append unpunctuated_cons unpunctuated_zeros
  unpunctuated_toDigits)

/-- Digits with a decimal point have no punctuation. -/
theorem unpunctuated_placePoint {digits : List Char} (h : Unpunctuated digits) (point : Int) :
    Unpunctuated (Binary.placePoint digits point) := by
  unfold Binary.placePoint
  dsimp only
  split
  · simp [h, unpunctuated_zeros, Text.punctuation]
  · split
    · simp [h, unpunctuated_zeros, Text.punctuation]
    · simp [h.of_sublist (List.take_sublist _ _), h.of_sublist (List.drop_sublist _ _),
        Text.punctuation]

/-- An exponent is written without punctuation. -/
theorem unpunctuated_exponentText (width : Nat) (exponent : Int) :
    Unpunctuated (Binary.exponentText width exponent) := by
  unfold Binary.exponentText
  dsimp only
  split <;> simp [unpunctuated_zeros, unpunctuated_toDigits, Text.punctuation]

/-- Digits are laid out without punctuation. -/
theorem unpunctuated_write (layout : Binary.Layout) (digits : Nat) (exponent : Int) :
    Unpunctuated (layout.write digits exponent) := by
  -- The digits are shown as they are, or cut at the point or after the first.
  have shown := unpunctuated_toDigits digits
  have head := shown.of_sublist (List.take_sublist 1 _)
  have tail := shown.of_sublist (List.drop_sublist 1 _)
  unfold Binary.Layout.write
  dsimp only
  split
  · exact unpunctuated_placePoint shown _
  · rw [unpunctuated_append, unpunctuated_cons]
    refine ⟨?_, by decide, unpunctuated_exponentText _ _⟩
    split
    · exact head
    · rw [unpunctuated_append, unpunctuated_cons]
      exact ⟨head, by decide, tail⟩

/-- A sign is no punctuation. -/
theorem unpunctuated_signed {body : List Char} (h : Unpunctuated body) (negative : Bool) :
    Unpunctuated (String.ofList (if negative then '-' :: body else body)).toList := by
  rw [String.toList_ofList]
  cases negative with
  | false => exact h
  | true => exact unpunctuated_cons.2 ⟨by decide, h⟩

/-- A floating-point number is written without punctuation. -/
theorem unpunctuated_text_binary (x : Binary) : Unpunctuated x.text.toList := by
  cases x with
  | nan => simp [Binary.text, Text.punctuation]
  | infinite negative => cases negative <;> simp [Binary.text, Text.punctuation]
  | finite negative significand exponent =>
    apply unpunctuated_signed
    split
    · simp [Text.punctuation]
    · exact unpunctuated_write _ _ _

/-- The digits of a decimal are laid out without punctuation. -/
theorem unpunctuated_writeFinite (coefficient : Nat) (exponent : Int) :
    Unpunctuated (Decimal.writeFinite coefficient exponent) := by
  unfold Decimal.writeFinite
  extract_lets digits left point body power
  have shown : Unpunctuated digits := unpunctuated_toDigits coefficient
  have laid : Unpunctuated body := by
    unfold body
    split
    · simp [shown, unpunctuated_zeros, Text.punctuation]
    · split
      · simp [shown, unpunctuated_zeros]
      · simp [shown.of_sublist (List.take_sublist _ _), shown.of_sublist (List.drop_sublist _ _),
          Text.punctuation]
  split
  · exact laid
  · rw [unpunctuated_append, unpunctuated_cons, unpunctuated_cons]
    refine ⟨laid, by decide, ?_, unpunctuated_toDigits _⟩
    split <;> decide

/-- A decimal number is written without punctuation. -/
theorem unpunctuated_text_decimal (x : Decimal) : Unpunctuated x.text.toList := by
  cases x with
  | finite negative coefficient exponent =>
    exact unpunctuated_signed (unpunctuated_writeFinite coefficient exponent) negative
  | infinite negative => cases negative <;> simp [Decimal.text, Text.punctuation]
  | nan negative signalling payload =>
    have digits : Unpunctuated (if payload = 0 then "" else toString payload).toList := by
      split
      · exact Text.unpunctuated_nil
      · exact Text.unpunctuated_toString_nat payload
    simp only [Decimal.text, String.toList_append, unpunctuated_append]
    refine ⟨⟨?_, ?_⟩, digits⟩
    · cases negative <;> simp [Text.punctuation]
    · cases signalling <;> simp [Text.punctuation]

/-- What can be compared with zero is displayed without punctuation. -/
theorem unpunctuated_display_of_isNegative {v : Value} {negative : Bool}
    (h : Statement.isNegative v = .ok negative) : Unpunctuated v.display.toList := by
  cases v with
  | bool b => cases b <;> simp [Value.display, Value.quoted, Value.writeBool, Text.punctuation]
  | int n => exact Text.unpunctuated_toString_int n
  | float x => exact unpunctuated_text_binary x
  | decimal x => exact unpunctuated_text_decimal x
  | _ => cases h

/-! ## Null tests -/

namespace NullTest

open Text (punctuation)

variable {p : Char → Bool} (h : ∀ c, p c = true → c ∈ punctuation)

/-- Folding does not touch punctuation. -/
theorem fold_of_mem {c : Char} (hc : c ∈ punctuation) : fold c = c := by
  simp only [punctuation, List.mem_cons, List.not_mem_nil, or_false] at hc
  rcases hc with rfl | rfl | rfl | rfl | rfl <;> decide

include h

/-- A keyword without punctuation takes none away. -/
theorem filter_afterKeyword? {keyword cs rest : List Char}
    (plain : ∀ k ∈ keyword, k ∉ punctuation) (found : afterKeyword? keyword cs = some rest) :
    cs.filter p = rest.filter p := by
  induction keyword generalizing cs with
  | nil => rw [Option.some.inj found]
  | cons k keyword ih =>
    cases cs with
    | nil => cases found
    | cons c cs =>
      rw [afterKeyword?] at found
      split at found
      · rename_i same
        have unmarked : p c = false := by
          apply Bool.eq_false_iff.2
          intro marked
          have kept := fold_of_mem (h c marked)
          rw [kept, beq_iff_eq] at same
          exact plain k List.mem_cons_self (same ▸ h c marked)
        rw [List.filter_cons_of_neg (by simp [unmarked])]
        exact ih (fun k hk => plain k (List.mem_cons_of_mem _ hk)) found
      · cases found

/-- Blanks take no punctuation away. -/
theorem filter_afterBlanks? {cs rest : List Char} (found : afterBlanks? cs = some rest) :
    cs.filter p = rest.filter p := by
  cases cs with
  | nil => cases found
  | cons c cs =>
    rw [afterBlanks?] at found
    split at found
    · rename_i blank
      rw [← Option.some.inj found,
        Text.filter_dropWhile_of_ignores fun c hc => Text.eq_false_of_isBlank h hc,
        List.filter_cons_of_neg (by simp [Text.eq_false_of_isBlank h blank])]
    · cases found

/-- The keyword NULL has no punctuation. -/
theorem filter_of_endsInNull {cs : List Char} (found : endsInNull cs = true) :
    cs.filter p = [] := by
  unfold endsInNull at found
  split at found
  · rename_i rest after
    have null : ∀ k ∈ ['N', 'U', 'L', 'L'], k ∉ punctuation :=
      Text.notMem_punctuation_of_all (by decide)
    rw [filter_afterKeyword? h null after, List.filter_eq_nil_iff]
    intro c hc
    simp [Text.eq_false_of_isBlank h (List.all_eq_true.1 found c hc)]
  · cases found

/-- A bare null test has no punctuation. -/
theorem filter_of_isBare {s : String} (bare : isBare s = true) : s.toList.filter p = [] := by
  unfold isBare isBareChars at bare
  split at bare
  · cases bare
  · rename_i rest found
    obtain ⟨after, keyword, blanks⟩ := Option.bind_eq_some_iff.1 found
    have opening : s.toList.filter p = rest.filter p := by
      have leading : (s.toList.dropWhile Text.isBlank).filter p = s.toList.filter p :=
        Text.filter_dropWhile_of_ignores (fun c hc => Text.eq_false_of_isBlank h hc) _
      have is : ∀ k ∈ ['I', 'S'], k ∉ punctuation := Text.notMem_punctuation_of_all (by decide)
      rw [← leading, filter_afterKeyword? h is keyword, filter_afterBlanks? h blanks]
    rw [opening]
    split at bare
    · rename_i tail negated
      obtain ⟨after, keyword, blanks⟩ := Option.bind_eq_some_iff.1 negated
      have not : ∀ k ∈ ['N', 'O', 'T'], k ∉ punctuation :=
        Text.notMem_punctuation_of_all (by decide)
      rw [filter_afterKeyword? h not keyword, filter_afterBlanks? h blanks]
      exact filter_of_endsInNull h bare
    · exact filter_of_endsInNull h bare

end NullTest

/-! ## Texts and byte strings -/

/-- A blank byte is no punctuation. -/
theorem byteChar_notMem_of_isBlankByte {byte : UInt8} (h : isBlankByte byte = true) :
    Text.byteChar byte ∉ Text.punctuation := by
  have blanks : ∀ n < 256, isBlankByte (UInt8.ofNat n) = true →
      Text.byteChar (UInt8.ofNat n) ∉ Text.punctuation := by
    decide +kernel
  rw [← UInt8.ofNat_toNat (x := byte)] at h ⊢
  exact blanks _ byte.toNat_lt h

/-- Upper case keeps a byte, or neither form is punctuation. -/
theorem upperByte_eq_or_notMem (byte : UInt8) :
    upperByte byte = byte ∨ Text.byteChar byte ∉ Text.punctuation ∧
      Text.byteChar (upperByte byte) ∉ Text.punctuation := by
  have letters : ∀ n < 256, upperByte (UInt8.ofNat n) = UInt8.ofNat n ∨
      Text.byteChar (UInt8.ofNat n) ∉ Text.punctuation ∧
        Text.byteChar (upperByte (UInt8.ofNat n)) ∉ Text.punctuation := by
    decide +kernel
  have known := letters _ byte.toNat_lt
  rwa [UInt8.ofNat_toNat] at known

/-- Trimming bytes keeps the punctuation among them. -/
theorem filter_byteChar_trimBy (data : List UInt8) :
    ((Text.trimBy isBlankByte data).map Text.byteChar).filter (· ∈ Text.punctuation) =
      (data.map Text.byteChar).filter (· ∈ Text.punctuation) := by
  rw [List.filter_map, List.filter_map, Text.filter_trimBy]
  intro byte blank
  simpa using byteChar_notMem_of_isBlankByte blank

/-- Upper case keeps the punctuation among bytes. -/
theorem filter_byteChar_upperByte (data : List UInt8) :
    ((data.map upperByte).map Text.byteChar).filter (· ∈ Text.punctuation) =
      (data.map Text.byteChar).filter (· ∈ Text.punctuation) := by
  induction data with
  | nil => rfl
  | cons byte rest ih =>
    simp only [List.map_cons]
    rcases upperByte_eq_or_notMem byte with same | ⟨before, after⟩
    · rw [same, List.filter_cons, List.filter_cons, ih]
    · rw [List.filter_cons_of_neg (by simpa using after),
        List.filter_cons_of_neg (by simpa using before), ih]

namespace TextClass

variable {T : TextClass}

/-- The display of bytes has the marks of their punctuation. -/
theorem marks_display_bytes (form : ByteForm) {xs ys : List UInt8} (h : form ≠ .view)
    (same : (xs.map Text.byteChar).filter (· ∈ Text.punctuation) =
      (ys.map Text.byteChar).filter (· ∈ Text.punctuation)) :
    T.marks (Value.bytes form xs).display = T.marks (Value.bytes form ys).display := by
  cases form with
  | frozen => exact Text.filter_quotedBytes_congr T.mem_punctuation id same
  | buffer =>
    have inside : T.marks (Text.quotedBytes (fun _ => '\'') xs) =
        T.marks (Text.quotedBytes (fun _ => '\'') ys) :=
      Text.filter_quotedBytes_congr T.mem_punctuation _ same
    simp only [Value.display, Value.quoted, ByteForm.write, enclosed, marks_append, inside]
  | view => exact absurd rfl h

/-- Bytes in quotes have marks. -/
theorem not_plain_quotedBytes (escaped : Char → Char) (data : List UInt8) :
    ¬ T.Plain (Text.quotedBytes escaped data) := by
  have quote (single double : Bool) : T.isMark (Text.chooseQuote single double) = true := by
    unfold Text.chooseQuote
    split
    · exact T.isMark_quote.2
    · exact T.isMark_quote.1
  intro plain
  unfold Text.quotedBytes at plain
  rw [Plain, marks, String.toList_ofList, List.filter_eq_nil_iff] at plain
  exact plain _ (List.mem_append_right _ (List.mem_singleton.2 rfl)) (quote _ _)

/-- What is displayed without marks and has words is a text. -/
theorem text_of_plain {v : Value} (plain : T.Plain v.display) (h : v.words?.isSome = true) :
    ∃ s, v = .text s := by
  cases v with
  | text s => exact ⟨s, rfl⟩
  | bytes form data =>
    cases form with
    | frozen => exact absurd plain (not_plain_quotedBytes _ _)
    | buffer =>
      rw [Plain, Value.display, Value.quoted, ByteForm.write, enclosed, marks_append,
        marks_append] at plain
      · have inside := (List.append_eq_nil_iff.1 (List.append_eq_nil_iff.1 plain).1).2
        exact absurd inside (not_plain_quotedBytes _ _)
      all_goals
        intros
        contradiction
    | view => cases h
  | _ => cases h

/-- Trimming a value keeps the marks of its display. -/
theorem marks_display_trim? {v trimmed : Value} (h : v.trim? = some trimmed) :
    T.marks trimmed.display = T.marks v.display := by
  cases v with
  | text s =>
    rw [← Option.some.inj h]
    exact marks_trim T s
  | bytes form data =>
    cases form with
    | frozen =>
      rw [← Option.some.inj h]
      exact marks_display_bytes .frozen (by decide) (filter_byteChar_trimBy data)
    | buffer =>
      rw [← Option.some.inj h]
      exact marks_display_bytes .buffer (by decide) (filter_byteChar_trimBy data)
    | view => cases h
  | _ => cases h

/-- Upper case keeps the marks of the display of a value. -/
theorem marks_display_upper? {v capital : Value} (h : v.upper? = some capital) :
    T.marks capital.display = T.marks v.display := by
  cases v with
  | text s =>
    rw [← Option.some.inj h]
    exact marks_upper T s
  | bytes form data =>
    cases form with
    | frozen =>
      rw [← Option.some.inj h]
      exact marks_display_bytes .frozen (by decide) (filter_byteChar_upperByte data)
    | buffer =>
      rw [← Option.some.inj h]
      exact marks_display_bytes .buffer (by decide) (filter_byteChar_upperByte data)
    | view => cases h
  | _ => cases h

/-- A keyword has the marks of the value that it was made of. -/
theorem marks_display_keyword? {v keyword : Value} (h : v.keyword? = some keyword) :
    T.marks keyword.display = T.marks v.display := by
  obtain ⟨trimmed, trim, upper⟩ := Option.bind_eq_some_iff.1 h
  rw [marks_display_upper? upper, marks_display_trim? trim]

/-- What can be compared with zero is displayed without marks. -/
theorem plain_of_isNegative {v : Value} {negative : Bool}
    (h : Statement.isNegative v = .ok negative) : T.Plain v.display :=
  plain_of_notMem (unpunctuated_display_of_isNegative h)

/-- A bare null test has no marks. -/
theorem plain_of_isBare {s : String} (h : NullTest.isBare s = true) : T.Plain s :=
  NullTest.filter_of_isBare T.mem_punctuation h

end TextClass

end SqlBuilder
