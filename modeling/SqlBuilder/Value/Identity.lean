import SqlBuilder.Error

/-!
# Keys of a mapping

A mapping holds each key once. Two keys are the same when they are equal as numbers, texts, byte
strings, dates or ranges, or tuples of such keys; truth values count as the numbers zero and one.
A key that occurs again keeps its first place and takes the last value. Lists, sets, mappings,
queues and buffers can be no keys.
-/

set_option autoImplicit false

namespace SqlBuilder

open Number (Binary Decimal)

/-- A nonzero number as a product: a sign, a factor coprime to ten, and powers of two and five. -/
structure Factored where
  /-- Whether the number is below zero. -/
  negative : Bool
  /-- The factor coprime to ten. -/
  core : Nat
  /-- The power of two. -/
  twos : Int
  /-- The power of five. -/
  fives : Int
  deriving DecidableEq, Repr

/-- A number without its factors `base`, and how many they were, for at most `fuel` of them. -/
def stripFactor (base : Nat) : Nat → Nat → Nat × Nat
  | 0, value => (value, 0)
  | fuel + 1, value =>
    if value % base = 0 then
      let (rest, count) := stripFactor base fuel (value / base)
      (rest, count + 1)
    else (value, 0)

/-- The factored form of `± magnitude * 2 ^ twos * 5 ^ fives`, the same for all zeros. -/
def Factored.of (negative : Bool) (magnitude : Nat) (twos fives : Int) : Factored :=
  if magnitude = 0 then ⟨false, 0, 0, 0⟩
  else
    let (odd, countTwo) := stripFactor 2 (magnitude.log2 + 1) magnitude
    let (core, countFive) := stripFactor 5 (odd.log2 + 1) odd
    ⟨negative, core, twos + countTwo, fives + countFive⟩

/-- What makes two keys the same. -/
inductive KeyForm where
  /-- The null value. -/
  | null
  /-- A finite number. -/
  | number (value : Factored)
  /-- An infinity. -/
  | infinity (negative : Bool)
  /-- A text. -/
  | text (s : String)
  /-- A byte string. -/
  | bytes (data : List UInt8)
  /-- A date. -/
  | date (d : Date)
  /-- A date with a time of day. -/
  | moment (m : Moment)
  /-- The integers of a range: their number, the first and the step. -/
  | range (size : Nat) (first step : Int)
  /-- A tuple. -/
  | tuple (items : List KeyForm)
  /-- The mark of an omitted argument. -/
  | omitted
  /-- A value that equals only itself. -/
  | unique
  deriving Inhabited

namespace KeyForm

mutual

/-- Whether two keys are the same. -/
def same : KeyForm → KeyForm → Bool
  | null, null => true
  | number a, number b => a == b
  | infinity a, infinity b => a == b
  | text a, text b => a == b
  | bytes a, bytes b => a == b
  | date a, date b => a == b
  | moment a, moment b => a == b
  | range size first step, range size' first' step' =>
    size == size' && (size == 0 || (first == first' && (size == 1 || step == step')))
  | tuple items, tuple items' => sameAll items items'
  | omitted, omitted => true
  | _, _ => false

/-- Whether two lists of keys are the same, item by item. -/
def sameAll : List KeyForm → List KeyForm → Bool
  | [], [] => true
  | a :: rest, b :: rest' => a.same b && sameAll rest rest'
  | _, _ => false

end

end KeyForm

namespace Value

/-- The number that a floating-point value is as a key. -/
def floatKey : Binary → KeyForm
  | .nan => .unique
  | .infinite negative => .infinity negative
  | .finite negative significand exponent => .number (.of negative significand exponent 0)

/-- The number that a decimal is as a key; a signalling one can be no key. -/
def decimalKey? : Decimal → Option KeyForm
  | .finite negative coefficient exponent =>
    some (.number (.of negative coefficient exponent exponent))
  | .infinite negative => some (.infinity negative)
  | .nan _ signalling _ => if signalling then none else some .unique

/-- The number that an integer is as a key. -/
def intKey (n : Int) : KeyForm :=
  .number (.of (n < 0) n.natAbs 0 0)

mutual

/-- What a value is as a key, if it can be one. -/
def keyForm? : Value → Option KeyForm
  | null => some .null
  | omitted => some .omitted
  | callback => some .unique
  | bool b => some (intKey (if b then 1 else 0))
  | int n => some (intKey n)
  | float x => some (floatKey x)
  | decimal x => decimalKey? x
  | text s => some (.text s)
  | bytes .buffer _ => none
  | bytes _ data => some (.bytes data)
  | date d => some (.date d)
  | moment m => some (.moment m)
  | range start stop step => some (.range (rangeSize start stop step) start step)
  | series .tuple items => (keyForms? items).map .tuple
  | series .entries _ | series .stream _ => some .unique
  | series _ _ | mapping _ => none

/-- What the values of a list are as keys, if they all can be keys. -/
def keyForms? : List Value → Option (List KeyForm)
  | [] => some []
  | item :: rest =>
    match item.keyForm?, keyForms? rest with
    | some key, some keys => some (key :: keys)
    | _, _ => none

end

/-- The pairs with one more: a key that is there already keeps its place and takes the value. -/
def putPair (form : KeyForm) (key value : Value) :
    List (KeyForm × Value × Value) → List (KeyForm × Value × Value)
  | [] => [(form, key, value)]
  | (form', key', value') :: rest =>
    if form'.same form then (form', key', value) :: rest
    else (form', key', value') :: putPair form key value rest

/-- The mapping that results from inserting pairs one after another. -/
def ofPairs (pairs : List (Value × Value)) : Except Error Value :=
  let insert (known : List (KeyForm × Value × Value)) (pair : Value × Value) :
      Except Error (List (KeyForm × Value × Value)) :=
    match pair.1.keyForm? with
    | some form => .ok (putPair form pair.1 pair.2 known)
    | none => .error .wrongType
  (pairs.foldlM insert []).map fun known => mapping (known.map Prod.snd)

/-- The set of the given values; values that can be no keys can be in no set. -/
def ofSetItems (items : List Value) : Except Error Value :=
  if (keyForms? items).isSome then .ok (series .set items) else .error .wrongType

end Value

end SqlBuilder
