import SqlBuilder.Condition.Request
import SqlBuilder.Execution.RowIterator
import SqlBuilder.Options
import SqlBuilder.Statement.Assembly

/-!
# Statements

A statement is a state under construction, together with the options and, if there is one, the
session on which it runs. Every method gives its result or its error together with the statement
afterwards, since a failing method can have changed something before it failed. A callback argument
is applied to a fresh statement with the same options and session; the fresh statement is compiled
at once, and only its text and values are kept.
-/

set_option autoImplicit false

namespace SqlBuilder

open Sql (Compiled)

/-- A statement. -/
structure Statement (d : Driver) where
  /-- The options. -/
  options : Options := {}
  /-- What the statement has accumulated. -/
  state : State := {}
  /-- The session on which it runs. -/
  session : Option (Session d) := none

/-- What a method on a statement gives, with the statement afterwards. -/
abbrev Outcome (d : Driver) (α : Type) := Except Error α × Statement d

/-- A callback that configures a statement. -/
abbrev Builder (d : Driver) := Statement d → Outcome d Unit

/-- An argument of a method. -/
abbrev Argument (d : Driver) := Operand (Builder d)

namespace Statement

variable {d : Driver}

/-- A fresh statement with the same options and session. -/
def fresh (st : Statement d) : Statement d :=
  { st with state := {} }

/-- The result of a step that changes the state or fails without a change. -/
def change (st : Statement d) (state : Except Error State) : Outcome d Unit :=
  match state with
  | .ok state => (.ok (), { st with state := state })
  | .error e => (.error e, st)

/-- The state that a callback gives a fresh statement. -/
def nested (st : Statement d) (build : Builder d) : Outcome d State :=
  let (outcome, inner) := build st.fresh
  (outcome.map fun _ => inner.state, { st with session := inner.session })

/-- The compiled statement that a callback configures. -/
def nestedCompiled (st : Statement d) (build : Builder d) : Outcome d Compiled :=
  let (outcome, st) := st.nested build
  (outcome.bind State.compile, st)

/-- Compiling what a callback builds leaves the state as it was. -/
@[simp] theorem state_nestedCompiled (st : Statement d) (build : Builder d) :
    (st.nestedCompiled build).2.state = st.state := rfl

/-! ## Columns and source -/

/-- The columns that an argument names, and whether it named them all: a text names itself. -/
def named : Value → List Value × Except Error Unit
  | .text s => ([.text s], .ok ())
  | v => v.yielded

/-- The columns that the arguments name, one after another up to the first that fails, and whether
all were named. What the failing argument named before it failed counts. -/
def namedColumns : List Value → List Value × Except Error Unit
  | [] => ([], .ok ())
  | argument :: rest =>
    match named argument with
    | (columns, .error e) => (columns, .error e)
    | (columns, .ok _) =>
      let (more, outcome) := namedColumns rest
      (columns ++ more, outcome)

/-- Adds selected columns. -/
def select (st : Statement d) (arguments : List Value) : Outcome d Unit :=
  let (columns, outcome) := namedColumns arguments
  (outcome, { st with state := { st.state with columns := st.state.columns ++ columns } })

/-- Adds grouping columns. -/
def group (st : Statement d) (arguments : List Value) : Outcome d Unit :=
  let (columns, outcome) := namedColumns arguments
  (outcome, { st with state := { st.state with grouping := st.state.grouping ++ columns } })

/-- A state with a source. -/
def withSource (state : State) (source : Source) : State :=
  { state with source := some source }

/-- Sets the source, once: a table, or the derived table that a callback builds. -/
def readFrom (st : Statement d) (source : Argument d) (aliasName : Value) : Outcome d Unit :=
  match st.state.source with
  | some known => (.error (.sourceAlreadySet known.sql.display), st)
  | none =>
    match source with
    | .value reference => st.change ((Source.ofReference reference).map (withSource st.state))
    | .callback build =>
      let (compiled, st) := st.nestedCompiled build
      let aliasName := aliasName.orElse (.text st.options.subqueryAlias)
      st.change do
        let compiled ← compiled
        Value.requireWritable [aliasName]
        .ok (withSource st.state (Source.ofCompiled compiled aliasName))

/-! ## Joins and unions -/

/-- Adds a join. -/
def join (st : Statement d) (request : JoinRequest) : Outcome d Unit :=
  st.change ((request.render st.state.source).map fun text =>
    { st.state with joins := st.state.joins ++ [text] })

/-- Adds the statement that a callback builds to the unions. -/
def union (st : Statement d) (branch : Argument d) (kind : Value) : Outcome d Unit :=
  match branch with
  | .value _ => (.error .wrongType, st)
  | .callback build =>
    let (compiled, st) := st.nestedCompiled build
    st.change do
      let compiled ← compiled
      let kind ← UnionKind.ofValue kind
      .ok { st.state with unions := st.state.unions ++ [⟨kind, compiled.sql, compiled.params⟩] }

/-! ## Conditions -/

/-- The condition that a request asks for, in a clause of a given name; only in HAVING does a group
consist of the HAVING conditions of the nested statement. -/
def resolve (st : Statement d) (emptyGroup : String) (clause : Option String) (connector : Value)
    (request : Request (Builder d)) : Outcome d Condition :=
  match request with
  | .group build =>
    let (state, st) := st.nested build
    let clause : Clause := if clause = some Clause.groups.name then .groups else .rows
    (state.bind fun state =>
      Condition.ofGroup connector emptyGroup (state.clauseText clause) (state.clauseParams clause),
      st)
  | .nullTest column operator => (Condition.ofNullTest connector column operator, st)
  | .subquery column operator build =>
    let (compiled, st) := st.nestedCompiled build
    (compiled.bind fun compiled => Condition.ofSubquery connector column operator compiled, st)
  | .test column operator value =>
    (Condition.ofTest clause connector column operator value, st)

/-- Adds a condition to a clause. -/
def require (st : Statement d) (clause : Clause) (column operator value : Argument d)
    (connector : Value) : Outcome d Unit :=
  match Connector.ofValue (some clause.name) connector with
  | .error e => (.error e, st)
  | .ok connector =>
    let (condition, st) :=
      st.resolve st.options.emptyGroup (some clause.name) (Condition.connectorField connector)
        (Request.of column operator value)
    st.change (condition.map fun condition => st.state.addCondition clause condition)

/-- Adds a membership test on rows; the values may come in any form that can be iterated, or from
a callback. -/
def requireMember (st : Statement d) (operator : String) (column values : Argument d)
    (connector : Value) : Outcome d Unit :=
  let items : Except Error (Argument d) :=
    match values with
    | .callback build => .ok (.callback build)
    | .value v => v.items.map fun items => .value (.series .list items)
  match items with
  | .error e => (.error e, st)
  | .ok items => st.require .rows column (.value (.text operator)) items connector

/-! ## Sorting and paging -/

/-- A sort key: a column and a direction, which is a text or bytes. -/
def sortKey (column direction : Value) : Except Error String := do
  let column ← column.written
  match direction.keyword? with
  | none => .error .noSuchOperation
  | some direction => .ok (column ++ " " ++ direction.display)

/-- Adds a sort key. -/
def order (st : Statement d) (column direction : Value) : Outcome d Unit :=
  st.change ((sortKey column direction).map fun key =>
    { st.state with ordering := st.state.ordering ++ [key] })

/-- Whether a value is below zero; only numbers are ordered. -/
def isNegative : Value → Except Error Bool
  | .bool _ => .ok false
  | .int n => .ok (n < 0)
  | .float x => .ok x.isNegative
  | .decimal x =>
    match x.isNegative? with
    | some negative => .ok negative
    | none => .error .unordered
  | _ => .error .wrongType

/-- The offset of a paging, unless none is given. -/
def givenOffset : Value → Option Value
  | .null => none
  | v => some v

/-- Whether a limit or an offset is below zero. -/
def isNegativePaging (limit offset : Value) : Except Error Bool := do
  if ← isNegative limit then .ok true
  else
    match givenOffset offset with
    | some offset => isNegative offset
    | none => .ok false

/-- Sets limit and offset in place of earlier ones. -/
def page (st : Statement d) (limit offset : Value) : Outcome d Unit :=
  st.change do
    if ← isNegativePaging limit offset then .error .negativePaging
    else .ok { st.state with limit := some limit, offset := givenOffset offset }

/-! ## Running -/

/-- The result of running a compiled statement, on the session if there is one. -/
def running {α : Type} (st : Statement d) (compiled : Except Error Compiled)
    (run : Session d → Bool → Compiled → Except Error α × Session d) : Outcome d α :=
  match compiled, st.session with
  | .error e, _ => (.error e, st)
  | .ok _, none => (.error .noDriver, st)
  | .ok compiled, some session =>
    let (outcome, session) := run session st.options.logStatements compiled
    (outcome, { st with session := some session })

/-- All rows. -/
def get (st : Statement d) : Outcome d (List Row) :=
  st.running st.state.compile Session.fetchAll

/-- The first row; the limit is one from then on. -/
def first (st : Statement d) : Outcome d (Option Row) :=
  let st := { st with state := { st.state with limit := some (.int 1) } }
  let (rows, st) := st.get
  (rows.map List.head?, st)

/-- Inserts a row and gives the generated identifier. -/
def insert (st : Statement d) (data : Value) : Outcome d Value :=
  st.running (st.state.compileInsert data) Session.insert

/-- Changes the rows that meet the conditions and counts them. -/
def update (st : Statement d) (data : Value) : Outcome d Int :=
  st.running (st.state.compileUpdate data) Session.affect

/-- Removes the rows that meet the conditions and counts them. -/
def delete (st : Statement d) : Outcome d Int :=
  st.running st.state.compileDelete Session.affect

/-- An iterator over the rows of the statement as it is now. -/
def morph (st : Statement d) (transform : Transform) (spread : Bool) :
    Except Error (RowIterator d) :=
  match st.state.compile, st.session with
  | .error e, _ => .error e
  | .ok _, none => .error .noDriver
  | .ok compiled, some _ => .ok (.pending compiled transform spread)

end Statement

end SqlBuilder
