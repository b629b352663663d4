import SqlBuilder.Condition.Basic
import SqlBuilder.Validation

/-!
# Conditions from loosely typed fields

A condition is made from fields whose types are not known in advance: a column and an operator must
be texts, a connector one of the two keywords, a list of values must not be empty.
`Condition.ofMapping` reads a condition from a mapping that names its kind; a field that the kind
does not have is refused.
-/

set_option autoImplicit false

namespace SqlBuilder

/-- The connector of a field: exactly one of the two keywords. -/
def checkConnector : Value → Except Fault Connector
  | .text s => if s = "AND" then .ok .and else if s = "OR" then .ok .or else .error .literal
  | _ => .error .literal

namespace Condition

/-- The fields that a condition can have, each given or not, and the path to them. -/
structure Fields where
  /-- The path to the fields. -/
  path : List String
  /-- The connector. -/
  connector : Option Value
  /-- The column. -/
  column : Option Value := none
  /-- The operator. -/
  operator : Option Value := none
  /-- The value of a simple condition. -/
  value : Option Value := none
  /-- The values of a membership test. -/
  values : Option Value := none
  /-- The text of a nested statement or clause. -/
  sql : Option Value := none
  /-- The values bound in it. -/
  bindings : Option Value := none

namespace Fields

/-- The checked connector. -/
def checkedConnector (f : Fields) : Checked Connector :=
  checkField (f.path ++ ["connector"]) (some .and) checkConnector f.connector

/-- The checked column. -/
def checkedColumn (f : Fields) : Checked String :=
  checkField (f.path ++ ["column"]) none checkText f.column

/-- The checked operator. -/
def checkedOperator (f : Fields) (default : String) : Checked String :=
  checkField (f.path ++ ["operator"]) (some default) checkText f.operator

/-- The checked text of a nested statement or clause. -/
def checkedSql (f : Fields) : Checked String :=
  checkField (f.path ++ ["sql"]) none checkText f.sql

/-- The checked values of a nested statement or clause. -/
def checkedBindings (f : Fields) : Checked (List Value) :=
  checkField (f.path ++ ["bindings"]) (some []) checkItems f.bindings

/-- The checked values of a membership test. -/
def checkedValues (f : Fields) : Checked (List Value) :=
  checkField (f.path ++ ["values"]) none checkSomeItems f.values

/-- A simple condition; the value may be left out. -/
def simple (f : Fields) : Checked Condition :=
  (((Checked.of Condition.simple).ap f.checkedConnector).ap f.checkedColumn).ap
    (f.checkedOperator "=") |>.ap (.of (f.value.getD .null))

/-- A null test. -/
def nullTest (f : Fields) : Checked Condition :=
  (((Checked.of Condition.nullTest).ap f.checkedConnector).ap f.checkedColumn).ap
    (f.checkedOperator "IS NULL")

/-- A membership test. -/
def membership (f : Fields) : Checked Condition :=
  (((Checked.of Condition.membership).ap f.checkedConnector).ap f.checkedColumn).ap
    (f.checkedOperator "IN") |>.ap f.checkedValues

/-- A subquery condition. -/
def subquery (f : Fields) : Checked Condition :=
  (((Checked.of Condition.subquery).ap f.checkedConnector).ap f.checkedColumn).ap
    (f.checkedOperator "IN") |>.ap f.checkedSql |>.ap f.checkedBindings

/-- A group. -/
def group (f : Fields) : Checked Condition :=
  ((Checked.of Condition.group).ap f.checkedConnector).ap f.checkedSql |>.ap f.checkedBindings

end Fields

/-- The names of the fields that a kind of condition has, and how it is made from them. -/
def kinds : List (String × List String × (Fields → Checked Condition)) :=
  [("simple", ["kind", "connector", "column", "operator", "value"], Fields.simple),
    ("null", ["kind", "connector", "column", "operator"], Fields.nullTest),
    ("membership", ["kind", "connector", "column", "operator", "values"], Fields.membership),
    ("subquery", ["kind", "connector", "column", "operator", "sql", "bindings"], Fields.subquery),
    ("group", ["kind", "connector", "sql", "bindings"], Fields.group)]

/-- The condition that a mapping describes, by the kind that it names. -/
def ofPairs (pairs : List (Value × Value)) : Checked Condition :=
  match fieldOf? pairs "kind" with
  | none => .error [⟨.tagNotFound, []⟩]
  | some tag =>
    match kinds.find? fun kind => tag.text? == some kind.1 with
    | none => .error [⟨.tagInvalid, []⟩]
    | some (name, known, make) =>
      let fields : Fields :=
        { path := [name]
          connector := fieldOf? pairs "connector"
          column := fieldOf? pairs "column"
          operator := fieldOf? pairs "operator"
          value := fieldOf? pairs "value"
          values := fieldOf? pairs "values"
          sql := fieldOf? pairs "sql"
          bindings := fieldOf? pairs "bindings" }
      (make fields).refuseFor (strayKeys [name] known pairs)

/-- The condition that a value describes. -/
def ofMapping (v : Value) : Except Error Condition :=
  match v.pairs? with
  | none => .error (.invalidCondition [⟨.conditionType, []⟩])
  | some pairs => (ofPairs pairs).mapError .invalidCondition

end Condition

end SqlBuilder
