import SqlBuilder.Error
import SqlBuilder.Number.Reading
import SqlBuilder.Number.Shortest
import SqlBuilder.Text.Quoted

/-!
# The text of a value

`Value.display` is the text that a value leaves in SQL and in messages: a text stands for itself,
numbers and dates are written out, and everything made of parts shows them in brackets. Inside
brackets texts are quoted and decimals and dates name their kind, which is `Value.quoted`. Integers
are written out only up to a number of digits: `Value.written` is the text of a value, or the error
of one that shows an integer beyond that.
-/

set_option autoImplicit false

namespace SqlBuilder

/-- A text between two others. -/
def enclosed (before after body : String) : String :=
  before ++ body ++ after

/-- Texts with commas between them. -/
def commaSeparated (parts : List String) : String :=
  String.intercalate ", " parts

/-- The written forms of a byte string. A buffer escapes every single quote, also where double
quotes enclose it. -/
def ByteForm.write (form : ByteForm) (data : List UInt8) : String :=
  match form with
  | .frozen => Text.quotedBytes id data
  | .buffer => enclosed "bytearray(" ")" (Text.quotedBytes (fun _ => '\'') data)
  | .view => "<memory>"

/-- The written forms of a series whose items are written already. -/
def SeriesForm.write (form : SeriesForm) (items : List String) : String :=
  match form, items with
  | .tuple, [item] => enclosed "(" ",)" item
  | .set, [] => "set()"
  | .list, _ => enclosed "[" "]" (commaSeparated items)
  | .tuple, _ => enclosed "(" ")" (commaSeparated items)
  | .queue, _ => enclosed "deque([" "])" (commaSeparated items)
  | .set, _ => enclosed "\x7b" "\x7d" (commaSeparated items)
  | .keys, _ => enclosed "dict_keys([" "])" (commaSeparated items)
  | .entries, _ => enclosed "dict_values([" "])" (commaSeparated items)
  | .stream, _ | .faulty _, _ => "<generator>"

/-- Whether the written form of a series shows its items. -/
def SeriesForm.showsItems : SeriesForm → Bool
  | .stream | .faulty _ => false
  | .list | .tuple | .queue | .set | .keys | .entries => true

/-- The written form of a range; a step of one is left out. -/
def writeRange (start stop step : Int) : String :=
  let ends := toString start ++ ", " ++ toString stop
  enclosed "range(" ")" (if step = 1 then ends else ends ++ ", " ++ toString step)

/-- Numbers in brackets after a name. -/
def writeFields (name : String) (fields : List Nat) : String :=
  enclosed (name ++ "(") ")" (commaSeparated (fields.map toString))

namespace Value

/-- The name of a truth value. -/
def writeBool (b : Bool) : String :=
  if b then "True" else "False"

mutual

/-- The text of a value as a part of another one. -/
def quoted : Value → String
  | null => "None"
  | omitted => "MISSING"
  | callback => "<callback>"
  | bool b => writeBool b
  | int n => toString n
  | float x => x.text
  | decimal x => enclosed "Decimal('" "')" x.text
  | text s => Text.quoted s
  | bytes form data => form.write data
  | date d => writeFields "datetime.date" d.fields
  | moment m => writeFields "datetime.datetime" m.fields
  | range start stop step => writeRange start stop step
  | series form items => form.write (quotedItems items)
  | mapping pairs => enclosed "\x7b" "\x7d" (commaSeparated (quotedPairs pairs))

/-- The texts of the parts of a series. -/
def quotedItems : List Value → List String
  | [] => []
  | item :: rest => item.quoted :: quotedItems rest

/-- The texts of the pairs of a mapping. -/
def quotedPairs : List (Value × Value) → List String
  | [] => []
  | (key, value) :: rest => (key.quoted ++ ": " ++ value.quoted) :: quotedPairs rest

end

/-- The text of a value. -/
def display : Value → String
  | omitted => "_Missing.MISSING"
  | decimal x => x.text
  | text s => s
  | date d => d.text
  | moment m => m.text
  | v => v.quoted

/-- A text is displayed as it is. -/
@[simp] theorem display_text (s : String) : (text s).display = s := rfl

/-- Whether an integer has few enough digits to be written out. -/
def isWritableInt (n : Int) : Bool :=
  (Nat.toDigits 10 n.natAbs).length ≤ Number.digitLimit

mutual

/-- Whether every integer that the text of a value shows can be written out. -/
def isWritable : Value → Bool
  | int n => isWritableInt n
  | range start stop step =>
    isWritableInt start && isWritableInt stop && (step == 1 || isWritableInt step)
  | series form items => !form.showsItems || areWritable items
  | mapping pairs => arePairsWritable pairs
  | _ => true

/-- Whether the parts of a series can be written out. -/
def areWritable : List Value → Bool
  | [] => true
  | item :: rest => item.isWritable && areWritable rest

/-- Whether the pairs of a mapping can be written out. -/
def arePairsWritable : List (Value × Value) → Bool
  | [] => true
  | (key, value) :: rest => key.isWritable && value.isWritable && arePairsWritable rest

end

/-- The text of a value, if it can be written out. -/
def written (v : Value) : Except Error String :=
  if v.isWritable then .ok v.display else .error .badValue

/-- Values that are shown in a text have to be written out. -/
def requireWritable (shown : List Value) : Except Error Unit :=
  if shown.all isWritable then .ok () else .error .badValue

/-- A text is written as it is. -/
@[simp] theorem written_text (s : String) : (text s).written = .ok s := rfl

/-- Whatever is written is the text of the value. -/
theorem written_eq_ok_iff {v : Value} {s : String} :
    v.written = .ok s ↔ v.isWritable = true ∧ v.display = s := by
  unfold written
  split <;> simp_all

end Value

end SqlBuilder
