import SqlBuilder.Validation
import SqlBuilder.Text.Identifier

/-!
# Options

The options of a statement, shared with every statement nested in it: the alias of a derived table
that is given none, the predicate that stands for an empty group, and whether statements are logged
when they run.
-/

set_option autoImplicit false

namespace SqlBuilder

open Number (Binary)

/-- The options of a statement. -/
structure Options where
  /-- The alias of a derived table that is given none. -/
  subqueryAlias : String := "t"
  /-- The predicate that stands for an empty group. -/
  emptyGroup : String := "1=1"
  /-- Whether statements are logged when they run. -/
  logStatements : Bool := true
  deriving DecidableEq, Repr, Inhabited

namespace Options

/-- The check of a text that must not be empty. -/
def checkFilled (v : Value) : Except Fault String :=
  match checkText v with
  | .ok s => if s.isEmpty then .error .stringTooShort else .ok s
  | .error fault => .error fault

/-- The check of an alias: a plain identifier. -/
def checkAlias (v : Value) : Except Fault String :=
  match checkFilled v with
  | .ok s => if Text.isIdentifier s then .ok s else .error .stringPattern
  | .error fault => .error fault

/-- The words for the two truth values. -/
def truthWords : List (String × Bool) :=
  [("0", false), ("off", false), ("f", false), ("false", false), ("n", false), ("no", false),
    ("1", true), ("on", true), ("t", true), ("true", true), ("y", true), ("yes", true)]

/-- The truth value that a word names, in any case. -/
def checkTruthWord (s : String) : Except Fault Bool :=
  match truthWords.lookup (s.map Char.toLower) with
  | some b => .ok b
  | none => .error .boolParsing

/-- The truth value that an integer of 64 bits stands for; larger ones are of the wrong type. -/
def checkTruthInt (n : Int) : Except Fault Bool :=
  if n = 0 then .ok false
  else if n = 1 then .ok true
  else if -Int.pow 2 63 ≤ n ∧ n < Int.pow 2 63 then .error .boolParsing
  else .error .boolType

/-- The truth value that a number stands for, if it is an integer. The least integer of 64 bits is
out of reach here: it may be the rounding of a smaller number. -/
def checkTruthReal (x : Binary) : Except Fault Bool :=
  match x.toInt? with
  | some n => if n = -Int.pow 2 63 then .error .boolType else checkTruthInt n
  | none => .error .boolType

/-- The check of a truth value. Of the byte strings only those that cannot change are read. -/
def checkTruth : Value → Except Fault Bool
  | .bool b => .ok b
  | .int n => checkTruthInt n
  | .float x => checkTruthReal x
  | .decimal x =>
    match x.toBinary? with
    | some y => checkTruthReal y
    | none => .error .boolType
  | .text s => checkTruthWord s
  | .bytes .frozen data =>
    match decodeUtf8? data with
    | some s => checkTruthWord s
    | none => .error .boolParsing
  | _ => .error .boolType

/-- The names of the options. -/
def fieldNames : List String :=
  ["subquery_alias", "empty_group_predicate", "log_statements"]

/-- The options that the pairs of a mapping set. -/
def ofPairs (pairs : List (Value × Value)) : Checked Options :=
  let aliasName :=
    checkField ["subquery_alias"] (some "t") checkAlias (fieldOf? pairs "subquery_alias")
  let emptyGroup :=
    checkField ["empty_group_predicate"] (some "1=1") checkFilled
      (fieldOf? pairs "empty_group_predicate")
  let logs :=
    checkField ["log_statements"] (some true) checkTruth (fieldOf? pairs "log_statements")
  (((Checked.of Options.mk).ap aliasName).ap emptyGroup |>.ap logs).refuseFor
    (strayKeys [] fieldNames pairs)

/-- The options that a mapping sets. -/
def load (v : Value) : Except Error Options :=
  match v.pairs? with
  | none => .error (.invalidOptions [⟨.optionsType, []⟩])
  | some pairs => (ofPairs pairs).mapError .invalidOptions

end Options

end SqlBuilder
