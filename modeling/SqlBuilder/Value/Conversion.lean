import SqlBuilder.Value.Display
import SqlBuilder.Value.Size

/-!
# Type tags and conversion

Every bound value carries a tag that says how the database stores it. `Value.tag` chooses the tag,
`Value.convert` turns a value into the form that a tag asks for: a truth value becomes zero or one,
numbers and texts are read as numbers, byte strings and series of small integers become bytes, and
everything that can be written out becomes a text.
-/

set_option autoImplicit false

namespace SqlBuilder

open Number (Binary Decimal)

/-- How a bound value is stored. -/
inductive Tag where
  /-- No value. -/
  | null
  /-- A truth value. -/
  | boolean
  /-- An integer. -/
  | integer
  /-- A floating-point number. -/
  | real
  /-- Bytes. -/
  | blob
  /-- Text. -/
  | text
  deriving DecidableEq, Repr, Inhabited

/-- The name of a tag. -/
def Tag.name : Tag → String
  | .null => "null"
  | .boolean => "boolean"
  | .integer => "integer"
  | .real => "real"
  | .blob => "blob"
  | .text => "text"

/-- The tag of a given name. -/
def Tag.ofName? (name : String) : Option Tag :=
  [Tag.null, .boolean, .integer, .real, .blob, .text].find? fun tag => tag.name == name

namespace Value

/-- The tag of a value; what has no tag of its own is stored as text. -/
def tag : Value → Tag
  | null => .null
  | bool _ => .boolean
  | int _ => .integer
  | float _ => .real
  | bytes _ _ => .blob
  | _ => .text

/-- The characters of a byte string, one for each byte. -/
def byteChars (data : List UInt8) : List Char :=
  data.map fun byte => Char.ofNat byte.toNat

/-- An answer, or the error of a value that cannot be read. -/
def readable {α : Type} : Option α → Except Error α
  | some a => .ok a
  | none => .error .badValue

/-- The integer that a value denotes: numbers are cut at the point, texts and bytes are read. -/
def toInteger : Value → Except Error Int
  | bool b => .ok (if b then 1 else 0)
  | int n => .ok n
  | float .nan => .error .badValue
  | float (.infinite _) => .error .overflow
  | float x => readable x.truncate?
  | decimal (.nan _ _ _) => .error .badValue
  | decimal (.infinite _) => .error .overflow
  | decimal x => readable x.truncate?
  | text s => readable (Number.readInt? s)
  | bytes _ data => readable (Number.readIntChars? (byteChars data))
  | _ => .error .wrongType

/-- The floating-point number of an integer, if it is in range. -/
def intToReal (n : Int) : Except Error Binary :=
  match Binary.ofInt n with
  | .infinite _ => .error .overflow
  | x => .ok x

/-- The floating-point number that a value denotes. -/
def toReal : Value → Except Error Binary
  | bool b => intToReal (if b then 1 else 0)
  | int n => intToReal n
  | float x => .ok x
  | decimal x => readable x.toBinary?
  | text s => readable (Number.readBinary? s)
  | bytes _ data => readable (Number.readBinaryChars? (byteChars data))
  | _ => .error .wrongType

/-- The byte that a value denotes. -/
def toByte : Value → Except Error UInt8
  | bool b => .ok (if b then 1 else 0)
  | int n => if 0 ≤ n ∧ n < 256 then .ok (UInt8.ofNat n.toNat) else .error .badValue
  | _ => .error .wrongType

/-- As many zero bytes as an integer says. With the 33 bytes that are kept beside them they have to
be counted by a machine word. -/
def zeroBytes (n : Int) : Except Error (List UInt8) :=
  if Int.pow 2 63 ≤ n + 33 ∨ n < -Int.pow 2 63 then .error .overflow
  else if n < 0 then .error .badValue
  else .ok (List.replicate n.toNat 0)

/-- The bytes that a value denotes; the items of a series are taken as bytes one by one. -/
def toBytes : Value → Except Error (List UInt8)
  | bool b => zeroBytes (if b then 1 else 0)
  | int n => zeroBytes n
  | bytes _ data => .ok data
  | text _ => .error .wrongType
  | v => do
    let data ← v.yielded.1.mapM toByte
    v.yielded.2
    .ok data

/-- A value in the form that a tag asks for. -/
def convert (tag : Tag) (v : Value) : Except Error Value :=
  match tag with
  | .null => .ok null
  | .boolean => .ok (int (if v.truthy then 1 else 0))
  | .integer => v.toInteger.map int
  | .real => v.toReal.map float
  | .blob => v.toBytes.map (bytes .frozen)
  | .text => v.written.map text

/-- Whether a value can be bound under its own tag: what has no tag of its own has to be written out
as a text. -/
def isBindable (v : Value) : Bool :=
  v.tag != .text || v.isWritable

/-- A value that can be bound is converted by its own tag. -/
theorem convert_tag {v : Value} (h : v.isBindable = true) :
    ∃ converted, convert v.tag v = .ok converted := by
  by_cases textual : v.tag = .text
  · have writable : v.isWritable = true := by simpa [isBindable, textual] using h
    exact ⟨text v.display, by rw [textual, convert, written, if_pos writable]; rfl⟩
  · cases v with
    | null | bool | int | float | bytes => exact ⟨_, rfl⟩
    | _ => exact absurd rfl textual

/-- A value that cannot be bound has no text. -/
theorem tag_of_not_bindable {v : Value} (h : v.isBindable = false) :
    v.tag = .text ∧ v.written = .error .badValue := by
  rw [isBindable, Bool.or_eq_false_iff, bne_eq_false_iff_eq] at h
  exact ⟨h.1, by rw [written, h.2]; rfl⟩

/-- A value that cannot be bound is refused by its own tag. -/
theorem convert_tag_of_not_bindable {v : Value} (h : v.isBindable = false) :
    convert v.tag v = .error .badValue := by
  obtain ⟨tag, unwritten⟩ := tag_of_not_bindable h
  rw [tag, convert, unwritten]
  rfl

end Value

end SqlBuilder
