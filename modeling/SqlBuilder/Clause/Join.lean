import SqlBuilder.Clause.Source

/-!
# Joins

A join names a table, a kind and how rows are matched: by shared columns, by an explicit comparison
of two columns, or by a foreign key that follows the usual convention, `<source>.id` compared with
`<joined table>.<source table>_id`. Cross and natural joins need no match.
-/

set_option autoImplicit false

namespace SqlBuilder

/-- The texts of a list, if they all are texts, with commas between them. -/
def joinTexts (items : List Value) : Except Error String :=
  match items.mapM Value.text? with
  | some texts => .ok (commaSeparated texts)
  | none => .error .wrongType

/-- A join that is asked for. -/
structure JoinRequest where
  /-- The joined table. -/
  table : Value
  /-- The first compared column. -/
  first : Value := .null
  /-- The comparison. -/
  operator : Value := .null
  /-- The second compared column. -/
  second : Value := .null
  /-- The kind of join. -/
  kind : Value := .text ""
  /-- The shared columns. -/
  shared : Value := .null

namespace JoinRequest

/-- The kind of a join: its words in upper case, one space apart. -/
def kindText : Value → Except Error String
  | .text s => .ok (Text.upper (String.intercalate " " (Text.words s)))
  | v =>
    match v.words? with
    | some [] => .ok ""
    | some _ => .error .wrongType
    | none => .error .noSuchOperation

/-- Whether joins of a kind need no match. -/
def isUnconditional (kind : String) : Bool :=
  let first := String.ofList (kind.toList.takeWhile (· != ' '))
  first == "CROSS" || first == "NATURAL"

/-- What stands before the table. -/
def opening (kind : String) : String :=
  if kind.isEmpty then "JOIN" else kind ++ " JOIN"

/-- The shared columns of a join; there must be some text. -/
def sharedColumns (shared : Value) : Except Error String := do
  let columns ←
    match shared with
    | .text s => .ok s
    | v => v.items.bind joinTexts
  if columns.isEmpty then .error .emptyUsing else .ok columns

/-- The last part of a table name that is qualified by dots. -/
def lastPart (name : String) : String :=
  String.ofList (name.toList.reverse.takeWhile (· != '.')).reverse

/-- The table name that a foreign key refers to. -/
def keyTable : Value → Except Error String
  | .text s => .ok (lastPart s)
  | .bytes .frozen _ | .bytes .buffer _ => .error .wrongType
  | _ => .error .noSuchOperation

/-- The text of a column that is given, or else the inferred one. -/
def writtenOr (column : Value) (inferred : Except Error String) : Except Error String :=
  if column.truthy then column.written else inferred

/-- The two columns that are compared; missing ones are inferred from the source. -/
def comparedColumns (r : JoinRequest) (source : Option Source) : Except Error (String × String) :=
  match r.first, r.second with
  | .null, _ | _, .null =>
    match source with
    | none => .error (.tableNotSet "join")
    | some source => do
      let (_, joined) ← Sql.referenceOf r.table
      let key ← keyTable source.table
      let first ← writtenOr r.first (source.aliasName.written.map (· ++ ".id"))
      let second ← writtenOr r.second (.ok (joined.display ++ "." ++ key ++ "_id"))
      .ok (first, second)
  | first, second => do .ok (← first.written, ← second.written)

/-- How the rows of a join are matched. -/
def matching (r : JoinRequest) (source : Option Source) : Except Error String :=
  match r.shared with
  | .null => do
    let (first, second) ← r.comparedColumns source
    let operator ← (r.operator.orElse (.text "=")).written
    .ok (" ON " ++ first ++ " " ++ operator ++ " " ++ second)
  | shared => do
    let columns ← sharedColumns shared
    .ok (" USING(" ++ columns ++ ")")

/-- What follows the joined table: nothing in a join that needs no match. -/
def ending (r : JoinRequest) (source : Option Source) (kind : String) : Except Error String :=
  if isUnconditional kind then .ok "" else r.matching source

/-- The text of a join. -/
def render (r : JoinRequest) (source : Option Source) : Except Error String := do
  let kind ← kindText r.kind
  let ending ← r.ending source kind
  let table ← r.table.written
  .ok (opening kind ++ " " ++ table ++ ending)

end JoinRequest

end SqlBuilder
