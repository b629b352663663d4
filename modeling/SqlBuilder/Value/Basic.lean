import SqlBuilder.Number.Binary
import SqlBuilder.Number.Decimal
import SqlBuilder.Value.Calendar

/-!
# Values

The data that a statement binds and the arguments that its methods are given. Values are first
order: a callback inside a value is only a mark, and a stream is the items that it has to give, with
the failure that it meets after them if it meets one. `truthy` says which values count as set,
`elements?` gives the elements of a value, and `isCollection` tells the values that bind as a list
of their elements from those that bind as one.
-/

set_option autoImplicit false

namespace SqlBuilder

open Number (Binary Decimal)

/-- The forms of a byte string. -/
inductive ByteForm where
  /-- Bytes that cannot be changed. -/
  | frozen
  /-- Bytes in a buffer. -/
  | buffer
  /-- A window on bytes held elsewhere. -/
  | view
  deriving DecidableEq, Repr, Inhabited

/-- The forms of a series of values. -/
inductive SeriesForm where
  /-- A growable list. -/
  | list
  /-- A tuple. -/
  | tuple
  /-- A double-ended queue. -/
  | queue
  /-- A set. -/
  | set
  /-- The keys of a mapping. -/
  | keys
  /-- The values of a mapping. -/
  | entries
  /-- A stream that is read once. -/
  | stream
  /-- A stream that fails once its items are read, in words of its own. -/
  | faulty (wording : String)
  deriving DecidableEq, Repr, Inhabited

/-- A value. -/
inductive Value where
  /-- The null value. -/
  | null
  /-- The mark of an argument that was not supplied. -/
  | omitted
  /-- A callback met where a plain value is expected. -/
  | callback
  /-- A truth value. -/
  | bool (b : Bool)
  /-- An integer of any size. -/
  | int (n : Int)
  /-- A floating-point number. -/
  | float (x : Binary)
  /-- A decimal number. -/
  | decimal (x : Decimal)
  /-- A text. -/
  | text (s : String)
  /-- A byte string. -/
  | bytes (form : ByteForm) (data : List UInt8)
  /-- A calendar date. -/
  | date (d : Date)
  /-- A date with a time of day. -/
  | moment (m : Moment)
  /-- The integers from `start` towards `stop` in steps of `step`. -/
  | range (start stop step : Int)
  /-- A series of values. -/
  | series (form : SeriesForm) (items : List Value)
  /-- A mapping, in the order of insertion. -/
  | mapping (pairs : List (Value × Value))
  deriving Inhabited

namespace Value

/-- How many integers a range holds. -/
def rangeSize (start stop step : Int) : Nat :=
  if 0 < step then ((stop - start + step - 1).fdiv step).toNat
  else if step < 0 then ((start - stop - step - 1).fdiv (-step)).toNat
  else 0

/-- The integers of a range, in order. -/
def rangeItems (start stop step : Int) : List Int :=
  (List.range (rangeSize start stop step)).map fun (index : Nat) => start + index * step

/-- Whether a value counts as set: null, false, zeros and empty values do not. -/
def truthy : Value → Bool
  | null => false
  | bool b => b
  | int n => n != 0
  | float x => !x.isZero
  | decimal x => !x.isZero
  | text s => !s.isEmpty
  | bytes _ data => !data.isEmpty
  | range start stop step => rangeSize start stop step != 0
  | series .stream _ | series (.faulty _) _ => true
  | series _ items => !items.isEmpty
  | mapping pairs => !pairs.isEmpty
  | omitted | callback | date _ | moment _ => true

/-- A value if it counts as set, and a default otherwise. -/
def orElse (v default : Value) : Value :=
  if v.truthy then v else default

/-- The elements of a value that can be iterated; scalars that are not made of parts cannot. -/
def elements? : Value → Option (List Value)
  | text s => some (s.toList.map fun c => text (String.singleton c))
  | bytes _ data => some (data.map fun byte => int byte.toNat)
  | range start stop step => some ((rangeItems start stop step).map int)
  | series _ items => some items
  | mapping pairs => some (pairs.map Prod.fst)
  | null | omitted | callback | bool _ | int _ | float _ | decimal _ | date _ | moment _ => none

/-- Whether a value binds as a list of its elements: sequences and sets do, but neither texts,
bytes, mappings and their values nor streams. -/
def isCollection : Value → Bool
  | range _ _ _ => true
  | series .entries _ | series .stream _ | series (.faulty _) _ => false
  | series _ _ => true
  | _ => false

/-- The text of a value that is a text. -/
def text? : Value → Option String
  | text s => some s
  | _ => none

/-- The pairs of a value that is a mapping. -/
def pairs? : Value → Option (List (Value × Value))
  | mapping pairs => some pairs
  | _ => none

end Value

end SqlBuilder
