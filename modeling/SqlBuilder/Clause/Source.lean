import SqlBuilder.Sql.Placeholder
import SqlBuilder.Value.Textual

/-!
# The source of a statement

A statement reads from a table, named by a reference, or from a derived table: a nested statement
in brackets with an alias, together with the values bound in it. A table is written alone, with an
alias after it, or with `AS` in any case between the two. Any other text is taken as a name that
serves as its own alias.
-/

set_option autoImplicit false

namespace SqlBuilder.Sql

/-- The table and the alias that a reference names. -/
def parseReference (reference : String) : String × String :=
  match Text.words reference with
  | [table, aliasName] => (table, aliasName)
  | [table, link, aliasName] =>
    if Text.upper link = "AS" then (table, aliasName)
    else (Text.trim reference, Text.trim reference)
  | _ => (Text.trim reference, Text.trim reference)

/-- The table and the alias that a value names; bytes have no `AS` among them. -/
def referenceOf (reference : Value) : Except Error (Value × Value) :=
  match reference with
  | .text s =>
    let (table, aliasName) := parseReference s
    .ok (.text table, .text aliasName)
  | v =>
    match v.words?, v.trim? with
    | some [table, aliasName], _ => .ok (table, aliasName)
    | some _, some whole => .ok (whole, whole)
    | _, _ => .error .noSuchOperation

end SqlBuilder.Sql

namespace SqlBuilder

/-- What a statement reads from. -/
structure Source where
  /-- What stands after FROM. -/
  sql : Value
  /-- The table, from which joins infer their columns. -/
  table : Value
  /-- The name that qualifies its columns. -/
  aliasName : Value
  /-- The values bound in a derived table. -/
  bindings : List Value := []
  /-- Whether it is a derived table. -/
  derived : Bool := false
  deriving Inhabited

namespace Source

/-- The table that a value refers to; a reference must not be blank. -/
def ofReference (reference : Value) : Except Error Source :=
  if !reference.truthy then .error .emptyTableName
  else
    match reference.trim? with
    | none => .error .noSuchOperation
    | some trimmed =>
      if !trimmed.truthy then .error .emptyTableName
      else
        (Sql.referenceOf reference).map fun (table, aliasName) =>
          { sql := trimmed, table := table, aliasName := aliasName }

/-- The derived table of a compiled statement. -/
def ofCompiled (compiled : Sql.Compiled) (aliasName : Value) : Source :=
  { sql := .text ("(" ++ compiled.sql ++ ") AS " ++ aliasName.display)
    table := aliasName
    aliasName := aliasName
    bindings := compiled.params
    derived := true }

/-- A table that is no derived table binds nothing. -/
theorem bindings_ofReference {reference : Value} {source : Source}
    (h : ofReference reference = .ok source) : source.bindings = [] ∧ source.derived = false := by
  unfold ofReference at h
  split at h
  · cases h
  · split at h
    · cases h
    · split at h
      · cases h
      · cases hr : Sql.referenceOf reference with
        | error e => simp [hr, Except.map] at h
        | ok names =>
          simp only [hr, Except.map, Except.ok.injEq] at h
          subst h
          exact ⟨rfl, rfl⟩

end Source

end SqlBuilder
