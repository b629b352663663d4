import SqlBuilder.Sql.Placeholder

/-!
# Conditions

A condition is one test of a WHERE or HAVING clause, with the values it binds. Nested statements
are compiled before a condition is made, so a condition holds only text and values. `render` gives
its text, `params` its values in the order of the placeholders; `renderAll` and `paramsAll` do the
same for a whole clause.
-/

set_option autoImplicit false

namespace SqlBuilder

open Sql (placeholders)

/-- The keyword between a condition and the one before it. -/
inductive Connector where
  /-- Both must hold. -/
  | and
  /-- One must hold. -/
  | or
  deriving DecidableEq, Repr, Inhabited

/-- The keyword of a connector. -/
def Connector.keyword : Connector → String
  | .and => "AND"
  | .or => "OR"

/-- A test. -/
inductive Condition where
  /-- A column compared with one value. -/
  | simple (connector : Connector) (column operator : String) (value : Value)
  /-- A test for null; the operator says it all. -/
  | nullTest (connector : Connector) (column operator : String)
  /-- A column tested against a list of values. -/
  | membership (connector : Connector) (column operator : String) (values : List Value)
  /-- A column tested against the rows of a statement. -/
  | subquery (connector : Connector) (column operator sql : String) (bindings : List Value)
  /-- A clause in brackets. -/
  | group (connector : Connector) (sql : String) (bindings : List Value)
  deriving Inhabited

namespace Condition

/-- How a condition is connected to the one before it. -/
def connector : Condition → Connector
  | simple connector _ _ _ | nullTest connector _ _ | membership connector _ _ _
  | subquery connector _ _ _ _ | group connector _ _ => connector

/-- The text of a condition. -/
def render : Condition → String
  | simple _ column operator _ => column ++ " " ++ operator ++ " ?"
  | nullTest _ column operator => column ++ " " ++ operator
  | membership _ column operator values =>
    column ++ " " ++ operator ++ " (" ++ placeholders values.length ++ ")"
  | subquery _ column operator sql _ => column ++ " " ++ operator ++ " (" ++ sql ++ ")"
  | group _ sql _ => sql

/-- The values that a condition binds, in the order of its placeholders. -/
def params : Condition → List Value
  | simple _ _ _ value => [value]
  | nullTest _ _ _ => []
  | membership _ _ _ values => values
  | subquery _ _ _ _ bindings => bindings
  | group _ _ bindings => bindings

/-- The text of a condition after the one before it. -/
def renderNext (condition : Condition) : String :=
  " " ++ condition.connector.keyword ++ " " ++ condition.render

/-- The text of a clause: the first condition stands without its connector. -/
def renderAll : List Condition → String
  | [] => ""
  | first :: rest => first.render ++ String.join (rest.map renderNext)

/-- The values that a clause binds. -/
def paramsAll (conditions : List Condition) : List Value :=
  conditions.flatMap params

/-- No conditions have no text. -/
@[simp] theorem renderAll_nil : renderAll [] = "" := rfl

/-- No conditions bind nothing. -/
@[simp] theorem paramsAll_nil : paramsAll [] = [] := rfl

/-- The values of conditions in a row are those of the first ones and then those of the others. -/
@[simp] theorem paramsAll_append (xs ys : List Condition) :
    paramsAll (xs ++ ys) = paramsAll xs ++ paramsAll ys :=
  List.flatMap_append

/-- Further conditions are written after those of a clause that has one. -/
theorem renderAll_append (first : Condition) (rest more : List Condition) :
    renderAll (first :: rest ++ more) =
      renderAll (first :: rest) ++ String.join (more.map renderNext) := by
  rw [List.cons_append, renderAll, renderAll, List.map_append, String.append_assoc]
  congr 1
  induction rest with
  | nil => rfl
  | cons c cs ih => rw [List.map_cons, List.cons_append, String.join_cons, String.join_cons, ih,
      String.append_assoc]

end Condition

end SqlBuilder
