import SqlBuilder.Statement.Basic

/-!
# Calls

A program of method calls as data. `Call` has one constructor for each method, up to methods that
only fill in arguments of another one; a callback argument is itself a list of calls. `Call.run`
gives the meaning: the method applied to the arguments, where a callback means running its calls one
after another up to the first that fails.
-/

set_option autoImplicit false

namespace SqlBuilder

open Sql (Compiled)

mutual

/-- An argument of a call. -/
inductive Arg where
  /-- A plain value. -/
  | value (v : Value)
  /-- A callback that makes calls. -/
  | callback (calls : List Call)

/-- A call of a method. -/
inductive Call where
  /-- Adds selected columns. -/
  | select (columns : List Arg)
  /-- Sets the source. -/
  | readFrom (source aliasName : Arg)
  /-- Adds a join. -/
  | join (table first operator second kind shared : Arg)
  /-- Adds a united statement. -/
  | union (branch kind : Arg)
  /-- Adds a condition. -/
  | require (clause : Clause) (column operator value connector : Arg)
  /-- Adds a membership test. -/
  | requireMember (operator : String) (column values connector : Arg)
  /-- Adds grouping columns. -/
  | group (columns : List Arg)
  /-- Adds a sort key. -/
  | order (column direction : Arg)
  /-- Sets limit and offset. -/
  | page (limit offset : Arg)
  /-- Compiles the SELECT with its values. -/
  | compile
  /-- Compiles the text of the SELECT. -/
  | compileSelect
  /-- Compiles the conditions of a clause. -/
  | compileClause (clause : Clause)
  /-- Lists the values of a clause. -/
  | clauseBindings (clause : Clause)
  /-- Lists all bound values. -/
  | allBindings
  /-- Compiles an INSERT. -/
  | compileInsert (data : Arg)
  /-- Compiles an UPDATE. -/
  | compileUpdate (data : Arg)
  /-- Compiles a DELETE. -/
  | compileDelete
  /-- Reads all rows. -/
  | get
  /-- Reads the first row. -/
  | first
  /-- Inserts a row. -/
  | insert (data : Arg)
  /-- Changes rows. -/
  | update (data : Arg)
  /-- Removes rows. -/
  | delete
  /-- A call that no method accepts. -/
  | rejected (error : Error)

end

/-- There are arguments, so that a decoder of them can be partial. -/
instance : Inhabited Arg := ⟨.value .null⟩

/-- There are calls, so that a decoder of them can be partial. -/
instance : Inhabited Call := ⟨.compile⟩

/-- The result of a call. -/
inductive Answer where
  /-- The statement itself. -/
  | self
  /-- A text. -/
  | text (s : String)
  /-- Compiled SQL. -/
  | compiled (compiled : Compiled)
  /-- Bound values. -/
  | bindings (values : List Value)
  /-- Rows. -/
  | rows (rows : List Row)
  /-- At most one row. -/
  | row (row : Option Row)
  /-- A generated identifier. -/
  | identifier (id : Value)
  /-- A number of rows. -/
  | count (n : Int)

namespace Arg

/-- An argument where only a plain value makes sense. -/
def toValue : Arg → Value
  | value v => v
  | callback _ => .callback

end Arg

namespace Outcome

variable {d : Driver}

/-- The answer of a method that gives the statement itself. -/
def self (outcome : Outcome d Unit) : Outcome d Answer :=
  (outcome.1.map fun _ => .self, outcome.2)

/-- The answer of a method, read as an answer of a given kind. -/
def answer {α : Type} (kind : α → Answer) (outcome : Outcome d α) : Outcome d Answer :=
  (outcome.1.map kind, outcome.2)

end Outcome

mutual

/-- What an argument means: a callback runs its calls. -/
def Arg.denote {d : Driver} : Arg → Argument d
  | .value v => .value v
  | .callback calls => .callback fun st => Call.runAll calls st

/-- Makes a call. -/
def Call.run {d : Driver} : Call → Statement d → Outcome d Answer
  | .select columns, st => (st.select (columns.map Arg.toValue)).self
  | .readFrom source aliasName, st => (st.readFrom source.denote aliasName.toValue).self
  | .join table first operator second kind shared, st =>
    (st.join
      { table := table.toValue
        first := first.toValue
        operator := operator.toValue
        second := second.toValue
        kind := kind.toValue
        shared := shared.toValue }).self
  | .union branch kind, st => (st.union branch.denote kind.toValue).self
  | .require clause column operator value connector, st =>
    (st.require clause column.denote operator.denote value.denote connector.toValue).self
  | .requireMember operator column values connector, st =>
    (st.requireMember operator column.denote values.denote connector.toValue).self
  | .group columns, st => (st.group (columns.map Arg.toValue)).self
  | .order column direction, st => (st.order column.toValue direction.toValue).self
  | .page limit offset, st => (st.page limit.toValue offset.toValue).self
  | .compile, st => (st.state.compile.map .compiled, st)
  | .compileSelect, st => (st.state.selectText.map .text, st)
  | .compileClause clause, st => (.ok (.text (st.state.clauseText clause)), st)
  | .clauseBindings clause, st => (.ok (.bindings (st.state.clauseParams clause)), st)
  | .allBindings, st => (.ok (.bindings st.state.allBindings), st)
  | .compileInsert data, st => ((st.state.compileInsert data.toValue).map .compiled, st)
  | .compileUpdate data, st => ((st.state.compileUpdate data.toValue).map .compiled, st)
  | .compileDelete, st => (st.state.compileDelete.map .compiled, st)
  | .get, st => st.get.answer .rows
  | .first, st => st.first.answer .row
  | .insert data, st => (st.insert data.toValue).answer .identifier
  | .update data, st => (st.update data.toValue).answer .count
  | .delete, st => st.delete.answer .count
  | .rejected error, st => (.error error, st)

/-- Makes calls one after another, up to the first that fails. -/
def Call.runAll {d : Driver} : List Call → Statement d → Outcome d Unit
  | [], st => (.ok (), st)
  | call :: rest, st =>
    match call.run st with
    | (.error e, st) => (.error e, st)
    | (.ok _, st) => Call.runAll rest st

end

end SqlBuilder
