import SqlBuilder.Statement.State

/-!
# Compiling a statement

Clauses are put together in a fixed order. A SELECT consists of the columns, the source, the joins,
WHERE, GROUP BY with HAVING, ORDER BY, LIMIT with OFFSET, and the united statements; its values are
those of the source, WHERE, HAVING when it is written, and the unions, in this order. INSERT, UPDATE
and DELETE use the source and, the last two, WHERE.
-/

set_option autoImplicit false

namespace SqlBuilder

open Sql (Compiled placeholders)

/-- A text after some words, or nothing for no text. -/
def unlessEmpty (words text : String) : String :=
  if text.isEmpty then "" else words ++ text

namespace State

/-- The source, which an operation needs. -/
def requireSource (s : State) (operation : String) : Except Error Source :=
  match s.source with
  | some source => .ok source
  | none => .error (.tableNotSet operation)

/-- The source of a mutation, which must be a table. -/
def requireTable (s : State) (mutation : Mutation) : Except Error Source := do
  let source ← s.requireSource mutation.name
  if source.derived then .error (.derivedTarget mutation) else .ok source

/-- The selected columns; all when none are named. -/
def columnsText (s : State) : Except Error String :=
  if s.columns.isEmpty then .ok "*" else joinTexts s.columns

/-- The joins after the source. -/
def joinsText (s : State) : String :=
  String.join (s.joins.map (" " ++ ·))

/-- WHERE with its conditions. -/
def whereText (s : State) : String :=
  unlessEmpty " WHERE " (s.clauseText .rows)

/-- GROUP BY, and HAVING, which stands only after it. -/
def groupText (s : State) : Except Error String :=
  if s.grouping.isEmpty then .ok ""
  else
    (joinTexts s.grouping).map fun columns =>
      " GROUP BY " ++ columns ++ unlessEmpty " HAVING " (s.clauseText .groups)

/-- ORDER BY with its keys. -/
def orderText (s : State) : String :=
  if s.ordering.isEmpty then "" else " ORDER BY " ++ commaSeparated s.ordering

/-- LIMIT, and OFFSET when it skips anything. -/
def pagingText (s : State) : String :=
  match s.limit with
  | none => ""
  | some limit =>
    let offset :=
      match s.offset with
      | some offset => if offset.truthy then " OFFSET " ++ offset.display else ""
      | none => ""
    " LIMIT " ++ limit.display ++ offset

/-- The values that LIMIT and OFFSET show. -/
def shownPaging (s : State) : List Value :=
  match s.limit with
  | none => []
  | some limit => limit :: s.offset.toList.filter Value.truthy

/-- The united statements. -/
def unionsText (s : State) : String :=
  String.join (s.unions.map UnionBranch.render)

/-- The text of the SELECT. -/
def selectText (s : State) : Except Error String := do
  let source ← s.requireSource "select"
  let columns ← s.columnsText
  let groups ← s.groupText
  Value.requireWritable s.shownPaging
  .ok ("SELECT " ++ columns ++ " FROM " ++ source.sql.display ++ s.joinsText ++ s.whereText ++
    groups ++ s.orderText ++ s.pagingText ++ s.unionsText)

/-- Whether HAVING is written. -/
def writesHaving (s : State) : Bool :=
  !s.groupConditions.isEmpty && !s.grouping.isEmpty

/-- The values of the SELECT, in the order of its placeholders. -/
def selectParams (s : State) : List Value :=
  s.sourceBindings ++ s.clauseParams .rows ++
    (if s.writesHaving then s.clauseParams .groups else []) ++ s.unionBindings

/-- All values that were bound, whether they are written or not. -/
def allBindings (s : State) : List Value :=
  s.sourceBindings ++ s.clauseParams .rows ++ s.clauseParams .groups ++ s.unionBindings

/-- The compiled SELECT. -/
def compile (s : State) : Except Error Compiled :=
  s.selectText.map fun sql => ⟨sql, s.selectParams⟩

/-- The data of a mutation, which must not be empty. -/
def requireData (mutation : Mutation) (data : Value) : Except Error Value :=
  if data.truthy then .ok data else .error (.emptyData mutation)

/-- The compiled INSERT of one row. -/
def compileInsert (s : State) (data : Value) : Except Error Compiled := do
  let source ← s.requireTable .insert
  let data ← requireData .insert data
  match data.pairs? with
  | none => .error .noSuchOperation
  | some pairs =>
    let columns ← joinTexts (pairs.map Prod.fst)
    .ok ⟨"INSERT INTO " ++ source.sql.display ++ " (" ++ columns ++ ") VALUES (" ++
      placeholders pairs.length ++ ")", pairs.map Prod.snd⟩

/-- The assignments of an UPDATE. -/
def assignments (columns : List Value) : String :=
  commaSeparated (columns.map fun column => column.display ++ " = ?")

/-- The compiled UPDATE. -/
def compileUpdate (s : State) (data : Value) : Except Error Compiled := do
  let source ← s.requireTable .update
  let data ← requireData .update data
  match data.pairs? with
  | some pairs =>
    Value.requireWritable (pairs.map Prod.fst)
    .ok ⟨"UPDATE " ++ source.sql.display ++ " SET " ++ assignments (pairs.map Prod.fst) ++
      s.whereText, pairs.map Prod.snd ++ s.clauseParams .rows⟩
  | none =>
    -- The columns are written while the data is iterated; only then are its values missed.
    Value.requireWritable data.yielded.1
    data.yielded.2
    .error .noSuchOperation

/-- The compiled DELETE. -/
def compileDelete (s : State) : Except Error Compiled := do
  let source ← s.requireTable .delete
  .ok ⟨"DELETE FROM " ++ source.sql.display ++ s.whereText, s.clauseParams .rows⟩

end State

end SqlBuilder
