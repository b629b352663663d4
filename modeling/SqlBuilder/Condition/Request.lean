import SqlBuilder.Condition.Checked
import SqlBuilder.Condition.NullTest
import SqlBuilder.Value.Textual

/-!
# What the arguments of a condition ask for

A condition is asked for by a column, an operator and a value, each of which may be left out.
`Request.of` reads the three: a callback as the column asks for a group, an operator that is a null
test needs no value, a lone second argument is the value unless it is a bare null test, and a
callback as the value asks for a subquery. `Condition.ofTest` makes the condition of a request with
a plain value: a membership test for a collection, a comparison for anything else.
-/

set_option autoImplicit false

namespace SqlBuilder

/-- An argument: a plain value or a callback. -/
inductive Operand (β : Type) where
  /-- A plain value. -/
  | value (v : Value)
  /-- A callback. -/
  | callback (f : β)

namespace Operand

variable {β : Type}

/-- An argument where only a plain value makes sense. -/
def toValue : Operand β → Value
  | value v => v
  | callback _ => .callback

/-- An argument that was not supplied. -/
def omitted : Operand β :=
  .value .omitted

variable {α : Type}

/-- An argument with its callback replaced. -/
def map (f : α → β) : Operand α → Operand β
  | value v => .value v
  | callback a => .callback (f a)

/-- A value stays the value that it is when callbacks are replaced; so does the lack of one. -/
theorem toValue_map (f : α → β) (argument : Operand α) :
    (argument.map f).toValue = argument.toValue := by
  cases argument <;> rfl

end Operand

/-- What the arguments of a condition ask for. -/
inductive Request (β : Type) where
  /-- A clause in brackets, built by a callback. -/
  | group (f : β)
  /-- A null test, with an operator other than the usual one if given. -/
  | nullTest (column : Value) (operator : Option Value)
  /-- A test against the rows of a statement that a callback builds. -/
  | subquery (column operator : Value) (f : β)
  /-- A test against a plain value. -/
  | test (column operator value : Value)

namespace Request

variable {β : Type}

/-- The test of a column against an argument. -/
def ofValue (column operator : Value) : Operand β → Request β
  | .value v => .test column operator v
  | .callback f => .subquery column operator f

/-- What a column with one more argument asks for. -/
def ofTwo (column : Value) (argument : Operand β) : Request β :=
  match argument with
  | .value .omitted | .value .null => .nullTest column none
  | .value (.text s) =>
    if NullTest.isBare s then .nullTest column (some (.text s))
    else .test column .null (.text s)
  | argument => ofValue column .null argument

/-- What a column, an operator and a value ask for. -/
def ofThree (column : Value) (operator value : Operand β) : Request β :=
  match operator.toValue with
  | .text s =>
    if NullTest.mentionsNull s then .nullTest column (some (.text s))
    else ofValue column (.text s) value
  | .omitted => ofValue column .null value
  | operator => ofValue column operator value

/-- What the arguments of a condition ask for. -/
def of (column operator value : Operand β) : Request β :=
  match column, value with
  | .callback f, _ => .group f
  | .value column, .value .omitted => ofTwo column operator
  | .value column, value => ofThree column operator value

variable {α : Type}

/-- A request with its callback replaced. -/
def map (f : α → β) : Request α → Request β
  | group a => .group (f a)
  | nullTest column operator => .nullTest column operator
  | subquery column operator a => .subquery column operator (f a)
  | test column operator value => .test column operator value

/-- What arguments ask for does not depend on what their callbacks are. -/
theorem of_map (f : α → β) (column operator value : Operand α) :
    Request.of (column.map f) (operator.map f) (value.map f) =
      (Request.of column operator value).map f := by
  have two (c : Value) (argument : Operand α) :
      ofTwo c (argument.map f) = (ofTwo c argument).map f := by
    cases argument with
    | callback a => rfl
    | value v =>
      cases v with
      | text s =>
        simp only [Operand.map, ofTwo]
        split <;> rfl
      | _ => rfl
  have three (c : Value) (operator value : Operand α) :
      ofThree c (operator.map f) (value.map f) = (ofThree c operator value).map f := by
    have plain (operator : Value) : ofValue c operator (value.map f) =
        (ofValue c operator value).map f := by
      cases value <;> rfl
    unfold ofThree
    rw [Operand.toValue_map]
    cases operator.toValue with
    | text s =>
      dsimp only
      split
      · rfl
      · exact plain _
    | _ => exact plain _
  cases column with
  | callback a => rfl
  | value c =>
    cases value with
    | callback a => exact three c operator (.callback a)
    | value v =>
      cases v with
      | omitted => exact two c operator
      | _ => exact three c operator (.value _)

end Request

namespace Condition

/-- The text of a connector as a field. -/
def connectorField (connector : Connector) : Value :=
  .text connector.keyword

/-- The null test on a column. -/
def ofNullTest (connector column : Value) (operator : Option Value) : Except Error Condition :=
  let fields : Fields :=
    { path := [], connector := some connector, column := some column, operator := operator }
  fields.nullTest.mapError .invalidCondition

/-- The error of a membership test in an empty collection. The wording shows the column and the
operator, so what cannot be written out is an error of its own. -/
def emptyRefusal (clause : Option String) (column operator : Value) : Error :=
  match column.written, operator.written with
  | .ok column, .ok operator => .emptyValueList (column ++ " " ++ operator) clause
  | _, _ => .badValue

/-- The test of a column against a plain value. An empty collection is refused. -/
def ofTest (clause : Option String) (connector column operator value : Value) :
    Except Error Condition :=
  let fields : Fields := { path := [], connector := some connector, column := some column }
  if value.isCollection then
    match value.items with
    | .error e => .error e
    | .ok [] => .error (emptyRefusal clause column (operator.orElse (.text "IN")))
    | .ok items =>
      let fields : Fields :=
        { fields with
          operator := some (operator.orElse (.text "IN"))
          values := some (.series .tuple items) }
      fields.membership.mapError .invalidCondition
  else
    let fields : Fields :=
      { fields with operator := some (operator.orElse (.text "=")), value := some value }
    fields.simple.mapError .invalidCondition

/-- The test of a column against the rows of a compiled statement. -/
def ofSubquery (connector column operator : Value) (compiled : Sql.Compiled) :
    Except Error Condition :=
  let fields : Fields :=
    { path := []
      connector := some connector
      column := some column
      operator := some (operator.orElse (.text "IN"))
      sql := some (.text compiled.sql)
      bindings := some (.series .tuple compiled.params) }
  fields.subquery.mapError .invalidCondition

/-- The text of a group: its clause in brackets, or a given predicate for an empty one. -/
def groupText (body empty : String) : String :=
  "(" ++ (if body.isEmpty then empty else body) ++ ")"

/-- The group with a given clause. -/
def ofGroup (connector : Value) (empty body : String) (bindings : List Value) :
    Except Error Condition :=
  let fields : Fields :=
    { path := []
      connector := some connector
      sql := some (.text (groupText body empty))
      bindings := some (.series .tuple bindings) }
  fields.group.mapError .invalidCondition

end Condition

/-- The connector that a value names, in any case and with blanks around it. -/
def Connector.ofValue (clause : Option String) (v : Value) : Except Error Connector :=
  match v.keyword? with
  | none => .error .noSuchOperation
  | some (.text "AND") => .ok .and
  | some (.text "OR") => .ok .or
  | some _ => .error (.unknownConnector v.display clause)

end SqlBuilder
