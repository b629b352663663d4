import SqlBuilder.Error
import SqlBuilder.Sql.Placeholder
import SqlBuilder.Value.Textual

/-!
# Unions

A union adds the rows of another statement: without repetition by default, or all of them.
-/

set_option autoImplicit false

namespace SqlBuilder

/-- The kinds of union. -/
inductive UnionKind where
  /-- The default, without repetition. -/
  | plain
  /-- All rows. -/
  | all
  /-- Without repetition, said explicitly. -/
  | distinct
  deriving DecidableEq, Repr, Inhabited

namespace UnionKind

/-- The keyword of a kind. -/
def keyword : UnionKind → String
  | plain => ""
  | all => "ALL"
  | distinct => "DISTINCT"

/-- The kind that a value names, in any case and with blanks around it. -/
def ofValue (v : Value) : Except Error UnionKind :=
  match v.keyword? with
  | none => .error .noSuchOperation
  | some (.text "") => .ok plain
  | some (.text "ALL") => .ok all
  | some (.text "DISTINCT") => .ok distinct
  | some other => .error (.unknownUnionKind other.display)

end UnionKind

/-- A statement that another one is united with. -/
structure UnionBranch where
  /-- The kind of union. -/
  kind : UnionKind
  /-- The text of the statement. -/
  sql : String
  /-- The values bound in it. -/
  bindings : List Value
  deriving Inhabited

/-- The text that a branch adds to a statement. -/
def UnionBranch.render (branch : UnionBranch) : String :=
  match branch.kind with
  | .plain => " UNION " ++ branch.sql
  | kind => " UNION " ++ kind.keyword ++ " " ++ branch.sql

end SqlBuilder
