import SqlBuilder.Clause.Join
import SqlBuilder.Clause.Union
import SqlBuilder.Condition.Basic

/-!
# The state of a statement

Everything that a statement accumulates before it is compiled, clause by clause. Nested statements
have states of their own, so a state holds only texts and values.
-/

set_option autoImplicit false

namespace SqlBuilder

/-- The clauses made of conditions. -/
inductive Clause where
  /-- The conditions on rows. -/
  | rows
  /-- The conditions on groups. -/
  | groups
  deriving DecidableEq, Repr, Inhabited

/-- The name of a clause in messages. -/
def Clause.name : Clause → String
  | .rows => "where"
  | .groups => "having"

/-- Everything that a statement accumulates. -/
structure State where
  /-- The selected columns. -/
  columns : List Value := []
  /-- What the statement reads from. -/
  source : Option Source := none
  /-- The joins, as text. -/
  joins : List String := []
  /-- The conditions on rows. -/
  rowConditions : List Condition := []
  /-- The conditions on groups. -/
  groupConditions : List Condition := []
  /-- The grouping columns. -/
  grouping : List Value := []
  /-- The sort keys, as text. -/
  ordering : List String := []
  /-- The greatest number of rows. -/
  limit : Option Value := none
  /-- How many rows to skip. -/
  offset : Option Value := none
  /-- The united statements. -/
  unions : List UnionBranch := []
  deriving Inhabited

namespace State

/-- The conditions of a clause. -/
def conditions (s : State) : Clause → List Condition
  | .rows => s.rowConditions
  | .groups => s.groupConditions

/-- A state with one more condition. -/
def addCondition (s : State) (clause : Clause) (condition : Condition) : State :=
  match clause with
  | .rows => { s with rowConditions := s.rowConditions ++ [condition] }
  | .groups => { s with groupConditions := s.groupConditions ++ [condition] }

/-- The values bound in the source. -/
def sourceBindings (s : State) : List Value :=
  match s.source with
  | some source => source.bindings
  | none => []

/-- The values bound in the united statements. -/
def unionBindings (s : State) : List Value :=
  s.unions.flatMap UnionBranch.bindings

/-- The text of a clause. -/
def clauseText (s : State) (clause : Clause) : String :=
  Condition.renderAll (s.conditions clause)

/-- The values that a clause binds. -/
def clauseParams (s : State) (clause : Clause) : List Value :=
  Condition.paramsAll (s.conditions clause)

/-- A statement as it is shown: by its source. -/
def describe (s : State) : String :=
  let shown :=
    match s.source with
    | some source => source.sql.quoted
    | none => "None"
  "Statement(source=" ++ shown ++ ")"

/-- A condition is added at the end of its clause. -/
theorem conditions_addCondition (s : State) (clause : Clause) (condition : Condition) :
    (s.addCondition clause condition).conditions clause = s.conditions clause ++ [condition] := by
  cases clause <;> rfl

/-- The conditions of the other clause stay. -/
theorem conditions_addCondition_of_ne (s : State) {clause other : Clause} (condition : Condition)
    (h : other ≠ clause) : (s.addCondition clause condition).conditions other =
      s.conditions other := by
  cases clause <;> cases other <;> first | rfl | exact absurd rfl h

end State

end SqlBuilder
