import SqlBuilder.Error
import SqlBuilder.Value.Display

/-!
# Checking fields

A record is built from loosely typed fields. Each field is checked on its own and all faults are
reported together: `Checked.ap` keeps the issues of both sides. Texts may be given as UTF-8 bytes.
-/

set_option autoImplicit false

namespace SqlBuilder

/-- A value that passed its check, or everything that is wrong with it. -/
abbrev Checked (α : Type) := Except (List Issue) α

namespace Checked

/-- A value that needs no check. -/
def of {α : Type} (a : α) : Checked α :=
  .ok a

/-- A checked function applied to a checked value; the issues of both count. -/
def ap {α β : Type} : Checked (α → β) → Checked α → Checked β
  | .ok f, .ok a => .ok (f a)
  | .ok _, .error issues => .error issues
  | .error issues, .ok _ => .error issues
  | .error issues, .error issues' => .error (issues ++ issues')

/-- A checked value, refused also for further issues. -/
def refuseFor {α : Type} (issues : List Issue) : Checked α → Checked α
  | .ok a => if issues.isEmpty then .ok a else .error issues
  | .error found => .error (found ++ issues)

/-- An application passes exactly when both sides do. -/
theorem ap_eq_ok_iff {α β : Type} {f : Checked (α → β)} {a : Checked α} {b : β} :
    ap f a = .ok b ↔ ∃ g x, f = .ok g ∧ a = .ok x ∧ g x = b := by
  cases f <;> cases a <;> simp [ap]

end Checked

/-- Whether an issue is listed before another: by code, then by path. -/
def Issue.before (a b : Issue) : Bool :=
  a.fault.code < b.fault.code ||
    (a.fault.code == b.fault.code && !decide (b.path < a.path))

/-- The issues in the order in which they are reported. -/
def sortIssues (issues : List Issue) : List Issue :=
  issues.mergeSort Issue.before

/-- The text that bytes encode. -/
def decodeUtf8? (data : List UInt8) : Option String :=
  String.fromUTF8? ⟨data.toArray⟩

/-- The text of a field: a text, or bytes that encode one. -/
def checkText : Value → Except Fault String
  | .text s => .ok s
  | .bytes .frozen data | .bytes .buffer data =>
    match decodeUtf8? data with
    | some s => .ok s
    | none => .error .stringUnicode
  | _ => .error .stringType

/-- The values of a field that holds a list: any series that does not fail, a range, or the bytes in
view through a window; byte strings themselves are no lists. -/
def checkItems : Value → Except Fault (List Value)
  | .series (.faulty _) items => .error (.iteration items.length)
  | .series _ items => .ok items
  | .bytes .view data => .ok (data.map fun byte => .int byte.toNat)
  | .range start stop step => .ok ((Value.rangeItems start stop step).map .int)
  | _ => .error .tupleType

/-- The values of a field that holds a list with at least one value. -/
def checkSomeItems (v : Value) : Except Fault (List Value) :=
  match checkItems v with
  | .ok [] => .error .tooShort
  | outcome => outcome

/-- The check of a field at a path: a field without a value takes its default or is missing. -/
def checkField {α : Type} (path : List String) (default : Option α) (check : Value → Except Fault α)
    (given : Option Value) : Checked α :=
  match given with
  | some v => (check v).mapError fun fault => [⟨fault, path ++ fault.steps⟩]
  | none =>
    match default with
    | some a => .ok a
    | none => .error [⟨.missing, path⟩]

/-- The value of a field in a mapping. -/
def fieldOf? (pairs : List (Value × Value)) (name : String) : Option Value :=
  (pairs.find? fun pair => pair.1.text? == some name).map Prod.snd

/-- The name of the type of a key that holds integers. -/
def keyType : Value → String
  | .range _ _ _ => "range"
  | .series _ _ => "tuple"
  | _ => "int"

/-- A field name that is no text, as paths show it: truth values count as numbers, anything else is
shown as a part of a value, or by its type when it cannot be written out. -/
def shownKey : Value → String
  | .bool b => toString b.toNat
  | key => if key.isWritable then key.quoted else "<unprintable " ++ keyType key ++ " object>"

/-- The issues of the keys of a mapping that are no known field names. -/
def strayKeys (path known : List String) (pairs : List (Value × Value)) : List Issue :=
  pairs.filterMap fun pair =>
    match pair.1 with
    | .text name => if known.contains name then none else some ⟨.extra, path ++ [name]⟩
    | key => some ⟨.invalidKey, path ++ [shownKey key]⟩

end SqlBuilder
