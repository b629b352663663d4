import SqlBuilder.Value.Basic

/-!
# Errors

Everything that can go wrong, by cause. A misuse of the builder, an invalid condition or option, a
failure of the database and a value of the wrong kind are different causes. `Error.message` is the
wording of those that have one, `Error.clause?` the clause that a misuse was about.
-/

set_option autoImplicit false

namespace SqlBuilder

/-- The statements that change data. -/
inductive Mutation where
  /-- Adding a row. -/
  | insert
  /-- Changing rows. -/
  | update
  /-- Removing rows. -/
  | delete
  deriving DecidableEq, Repr, Inhabited

/-- The name of a mutation. -/
def Mutation.name : Mutation → String
  | .insert => "insert"
  | .update => "update"
  | .delete => "delete"

/-- The name of a mutation as an SQL keyword. -/
def Mutation.keyword : Mutation → String
  | .insert => "INSERT"
  | .update => "UPDATE"
  | .delete => "DELETE"

/-- Why a field of a condition or an option is refused. -/
inductive Fault where
  /-- A text was expected. -/
  | stringType
  /-- Bytes that are no UTF-8 text. -/
  | stringUnicode
  /-- A text below the least length. -/
  | stringTooShort
  /-- A text that is no plain identifier. -/
  | stringPattern
  /-- Another keyword was expected. -/
  | literal
  /-- A series was expected. -/
  | tupleType
  /-- A series below the least length. -/
  | tooShort
  /-- A series that fails after as many items. -/
  | iteration (count : Nat)
  /-- A required field is missing. -/
  | missing
  /-- A field that does not exist. -/
  | extra
  /-- A field name that is no text. -/
  | invalidKey
  /-- A truth value was expected. -/
  | boolType
  /-- A value that denotes neither truth value. -/
  | boolParsing
  /-- A condition was expected. -/
  | conditionType
  /-- The kind of the condition is missing. -/
  | tagNotFound
  /-- The kind of the condition does not exist. -/
  | tagInvalid
  /-- A mapping of options was expected. -/
  | optionsType
  deriving DecidableEq, Repr, Inhabited

/-- The code of a fault. -/
def Fault.code : Fault → String
  | .stringType => "string_type"
  | .stringUnicode => "string_unicode"
  | .stringTooShort => "string_too_short"
  | .stringPattern => "string_pattern_mismatch"
  | .literal => "literal_error"
  | .tupleType => "tuple_type"
  | .tooShort => "too_short"
  | .iteration _ => "iteration_error"
  | .missing => "missing"
  | .extra => "extra_forbidden"
  | .invalidKey => "invalid_key"
  | .boolType => "bool_type"
  | .boolParsing => "bool_parsing"
  | .conditionType => "model_attributes_type"
  | .tagNotFound => "union_tag_not_found"
  | .tagInvalid => "union_tag_invalid"
  | .optionsType => "model_type"

/-- Where inside a field a fault lies: an iteration fails at the item it cannot give. -/
def Fault.steps : Fault → List String
  | .iteration count => [toString count]
  | _ => []

/-- A fault and the field it was found at. -/
structure Issue where
  /-- What is wrong. -/
  fault : Fault
  /-- The path to the field. -/
  path : List String
  deriving DecidableEq, Repr, Inhabited

/-- The kinds of failure that a database layer reports. -/
inductive FailureKind where
  /-- The database could not do its work. -/
  | operational
  /-- A constraint is violated. -/
  | integrity
  /-- The statement is wrong. -/
  | programming
  /-- A failure of a database toolkit. -/
  | toolkit
  /-- A failure that is reported in this library's own terms. -/
  | reported
  /-- A number does not fit. -/
  | overflow
  /-- A value does not fit. -/
  | badValue
  deriving DecidableEq, Repr, Inhabited

/-- Whether a kind of failure is one that the database itself reports. -/
def FailureKind.isDatabase : FailureKind → Bool
  | .operational | .integrity | .programming => true
  | .toolkit | .reported | .overflow | .badValue => false

/-- A failure of the database layer. -/
structure Failure where
  /-- What kind of failure it is. -/
  kind : FailureKind
  /-- The wording of the database. -/
  message : String
  deriving DecidableEq, Repr, Inhabited

/-- What can go wrong. -/
inductive Error where
  /-- A statement needs a source and has none. -/
  | tableNotSet (operation : String)
  /-- A second source. -/
  | sourceAlreadySet (source : String)
  /-- A table reference without a name. -/
  | emptyTableName
  /-- A join by shared columns without a column. -/
  | emptyUsing
  /-- A union of no known kind. -/
  | unknownUnionKind (kind : String)
  /-- A connector other than the two. -/
  | unknownConnector (given : String) (clause : Option String)
  /-- A membership test in an empty list. -/
  | emptyValueList (test : String) (clause : Option String)
  /-- A negative limit or offset. -/
  | negativePaging
  /-- A mutation of a derived table. -/
  | derivedTarget (mutation : Mutation)
  /-- A mutation without data. -/
  | emptyData (mutation : Mutation)
  /-- A statement without a driver cannot run. -/
  | noDriver
  /-- A result whose columns cannot be told apart by name. -/
  | duplicateColumns (names : List String)
  /-- A condition with invalid fields. -/
  | invalidCondition (issues : List Issue)
  /-- Options with invalid fields. -/
  | invalidOptions (issues : List Issue)
  /-- The database refused a statement. -/
  | rejected (failure : Failure) (sql : String) (params : List Value)
  /-- A parameter was bound before its predecessors. -/
  | boundOutOfOrder (position : Int) (sql : String) (params : List Value)
  /-- A parameter was bound that no placeholder awaits. -/
  | noPlaceholder (position : Int) (sql : String) (params : List Value)
  /-- A database could not be opened. -/
  | cannotOpen (database : String) (failure : Failure)
  /-- A failure of the database layer, passed on as it is. -/
  | native (failure : Failure)
  /-- A stream failed while it was read, in words of its own. -/
  | interrupted (wording : String)
  /-- A bound name does not occur in the statement text. -/
  | unknownBind
  /-- A value of the wrong kind. -/
  | wrongType
  /-- An operation that a value does not have. -/
  | noSuchOperation
  /-- A value of the right kind that has no meaning here. -/
  | badValue
  /-- A number too large. -/
  | overflow
  /-- A size that is refused for want of memory. -/
  | outOfMemory
  /-- A name that is not among the columns. -/
  | missingKey
  /-- An iterator without further rows. -/
  | exhausted
  /-- A number of no iterator or prepared statement. -/
  | noSuchItem
  /-- An undefined number cannot be ordered. -/
  | unordered
  deriving Inhabited

namespace Error

/-- A text between single quotes, as messages show it. -/
def inQuotes (s : String) : String :=
  "'" ++ s ++ "'"

/-- The wording of an error; values of the wrong kind are reported without words. -/
def message : Error → String
  | tableNotSet _ => "Table not set"
  | sourceAlreadySet source => "Source already set to " ++ inQuotes source ++ "."
  | emptyTableName => "Table name must not be empty."
  | emptyUsing => "USING requires at least one column."
  | unknownUnionKind kind => "Unknown UNION kind: " ++ inQuotes kind ++ "."
  | unknownConnector given _ => "Unknown boolean connector: " ++ inQuotes given ++ "."
  | emptyValueList test _ => "Empty value list for " ++ inQuotes test ++ "."
  | negativePaging => "LIMIT and OFFSET must be non-negative."
  | derivedTarget mutation => "Cannot " ++ mutation.name ++ " a derived table."
  | emptyData mutation => "Cannot " ++ mutation.name ++ " an empty data mapping."
  | noDriver => "No driver configured for this statement."
  | duplicateColumns names =>
    "Duplicate result column name(s): " ++ String.intercalate ", " names ++ "; alias them apart."
  | invalidOptions issues =>
    "Invalid statement configuration: " ++ toString issues.length ++ " error(s)."
  | rejected failure _ _ => failure.message
  | boundOutOfOrder position _ _ => "Parameter " ++ toString position ++ " bound out of order."
  | noPlaceholder position _ _ =>
    "Parameter " ++ toString position ++ " does not match a placeholder."
  | cannotOpen database failure =>
    "Cannot open SQLite database " ++ inQuotes database ++ ": " ++ failure.message
  | native failure => failure.message
  | interrupted wording => wording
  | invalidCondition _ | unknownBind | wrongType | noSuchOperation | badValue | overflow
  | outOfMemory | missingKey | exhausted | noSuchItem | unordered => ""

/-- The clause that a misuse of the builder is about. -/
def clause? : Error → Option String
  | sourceAlreadySet _ | emptyTableName => some "FROM"
  | emptyUsing => some "JOIN"
  | unknownUnionKind _ => some "UNION"
  | unknownConnector _ clause | emptyValueList _ clause => clause
  | negativePaging => some "LIMIT"
  | derivedTarget mutation | emptyData mutation => some mutation.keyword
  | duplicateColumns _ => some "SELECT"
  | _ => none

/-- Whether an error is a failure of the database in this library's own terms. -/
def isDriverError : Error → Bool
  | rejected _ _ _ | boundOutOfOrder _ _ _ | noPlaceholder _ _ _ | cannotOpen _ _ => true
  | native failure => failure.kind == .reported
  | _ => false

end Error

end SqlBuilder
