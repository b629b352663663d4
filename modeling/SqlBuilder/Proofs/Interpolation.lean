import SqlBuilder.Proofs.Punctuation
import SqlBuilder.Statement.Call

/-!
# The texts that a program interpolates

A call writes some of its arguments into SQL as they are: columns, tables, aliases, operators, join
columns, grouping and sort keys. `Call.Clean` says that these texts are in a class when the call is
made on a statement, for callbacks down to any depth; arguments that are bound as values, or that a
failing call does not get to write, do not matter. A join that infers its columns writes names that
it took apart, so what counts is what it writes, not what it took apart.
-/

set_option autoImplicit false

namespace SqlBuilder

/-! ## Arguments -/

namespace TextClass

variable (T : TextClass)

/-- The text that a field gives is in the class. -/
def FieldHolds (v : Value) : Prop :=
  ∀ s, checkText v = .ok s → T.Holds s

variable {T} in
/-- A text is the text that it gives. -/
theorem fieldHolds_text {s : String} (h : T.Holds s) : T.FieldHolds (.text s) := by
  intro t shown
  exact Except.ok.inj shown ▸ h

/-- The texts among some items are in the class. -/
def ItemsHold (items : List Value) : Prop :=
  ∀ t, Value.text t ∈ items → T.Holds t

/-- The columns that arguments name are in the class. -/
def ColumnsHold (arguments : List Value) : Prop :=
  T.ItemsHold (Statement.namedColumns arguments).1

/-- A reference to a table, or a callback and the alias of its derived table, are in the class. -/
def SourceHolds (fallback : String) (aliasName : Value) : Operand Prop → Prop
  | .value reference => reference.trim?.isSome = true → T.Holds reference.display
  | .callback clean => clean ∧ T.Holds (aliasName.orElse (.text fallback)).display

/-- The texts that a request for a condition interpolates are in the class; a bare null test needs
no condition. -/
def RequestHolds : Request Prop → Prop
  | .group clean => clean
  | .nullTest column operator =>
    T.FieldHolds column ∧ ∀ v, operator = some v →
      T.FieldHolds v ∨ ∃ s, v = .text s ∧ NullTest.isBare s = true
  | .subquery column operator clean => T.FieldHolds column ∧ T.FieldHolds operator ∧ clean
  | .test column operator _ => T.FieldHolds column ∧ T.FieldHolds operator

/-- A sort key is in the class. -/
def KeyHolds (column direction : Value) : Prop :=
  direction.keyword?.isSome = true → T.Holds column.display ∧ T.Holds direction.display

end TextClass

namespace JoinRequest

variable (T : TextClass)

/-- The compared columns, given or inferred, are in the class. -/
def ColumnsHold (r : JoinRequest) (source : Option Source) : Prop :=
  ∀ first second, r.comparedColumns source = .ok (first, second) → T.Holds first ∧ T.Holds second

/-- Shared columns, given as one text or in a list, are in the class. -/
def SharedHold : Value → Prop
  | .text s => T.Holds s
  | shared => ∀ items, shared.items = .ok items → T.ItemsHold items

/-- The texts that say how rows are matched are in the class. -/
def MatchHolds (r : JoinRequest) (source : Option Source) : Prop :=
  match r.shared with
  | .null => T.Holds (r.operator.orElse (.text "=")).display ∧ r.ColumnsHold T source
  | shared => SharedHold T shared

/-- The texts of a join are in the class; without a condition the matching does not matter. -/
structure TextsHold (r : JoinRequest) (source : Option Source) : Prop where
  /-- The kind. -/
  kind : ∀ s, r.kind = .text s → T.Holds s
  /-- The joined table. -/
  table : T.Holds r.table.display
  /-- The matching. -/
  matching : ∀ kind, kindText r.kind = .ok kind → isUnconditional kind = false →
    r.MatchHolds T source

end JoinRequest

namespace Operand

variable {β : Type}

/-- An argument that can only be a callback, with a condition on it. -/
def callbackHolds : Operand Prop → Prop
  | .value _ => True
  | .callback clean => clean

/-- The argument of a membership test: the items of a value, or a callback. -/
def items : Operand β → Except Error (Operand β)
  | .callback f => .ok (.callback f)
  | .value v => v.items.map fun items => .value (.series .list items)

variable {α : Type}

/-- The items of an argument are the same when callbacks are replaced. -/
theorem items_map (f : α → β) (argument : Operand α) :
    (argument.map f).items = argument.items.map (Operand.map f) := by
  cases argument with
  | callback a => rfl
  | value v => cases h : v.items <;> simp [map, items, h, Except.map]

end Operand

/-- A membership test is a condition on the items of its values. -/
theorem Statement.requireMember_eq {d : Driver} (st : Statement d) (operator : String)
    (column values : Argument d) (connector : Value) :
    st.requireMember operator column values connector =
      match values.items with
      | .error e => (.error e, st)
      | .ok items => st.require .rows column (.value (.text operator)) items connector := by
  cases values <;> rfl

/-! ## Calls -/

mutual

/-- An argument of a call on a statement, where a callback stands for the condition that the texts
it interpolates are in a class. -/
def Arg.promise (T : TextClass) {d : Driver} : Arg → Statement d → Operand Prop
  | .value v, _ => .value v
  | .callback calls, st => .callback (Call.AllClean T calls st.fresh)

/-- The texts that a call on a statement interpolates are in a class. -/
def Call.Clean (T : TextClass) {d : Driver} : Call → Statement d → Prop
  | .select columns, _ => T.ColumnsHold (columns.map Arg.toValue)
  | .readFrom source aliasName, st =>
    T.SourceHolds st.options.subqueryAlias aliasName.toValue (source.promise T st)
  | .join table first operator second kind shared, st =>
    JoinRequest.TextsHold T
      { table := table.toValue
        first := first.toValue
        operator := operator.toValue
        second := second.toValue
        kind := kind.toValue
        shared := shared.toValue } st.state.source
  | .union branch _, st => (branch.promise T st).callbackHolds
  | .require _ column operator value _, st =>
    T.RequestHolds
      (Request.of (column.promise T st) (operator.promise T st) (value.promise T st))
  | .requireMember operator column values _, st =>
    ∀ items, (values.promise T st).items = .ok items →
      T.RequestHolds (Request.of (column.promise T st) (.value (.text operator)) items)
  | .group columns, _ => T.ColumnsHold (columns.map Arg.toValue)
  | .order column direction, _ => T.KeyHolds column.toValue direction.toValue
  | _, _ => True

/-- The texts that calls one after another interpolate are in a class, up to the first call that
fails. -/
def Call.AllClean (T : TextClass) {d : Driver} : List Call → Statement d → Prop
  | [], _ => True
  | call :: rest, st =>
    call.Clean T st ∧
      match call.run st with
      | (.ok _, st) => Call.AllClean T rest st
      | (.error _, _) => True

end

/-! ## Programs -/

/-- A statement on which no call was made. -/
def Statement.blank {d : Driver} (options : Options) (session : Option (Session d)) :
    Statement d :=
  { options := options, session := session }

/-- Makes calls one after another, also past those that fail, and gives all answers. -/
def Call.attempt {d : Driver} : List Call → Statement d → List (Except Error Answer) × Statement d
  | [], st => ([], st)
  | call :: rest, st =>
    let (answer, st) := call.run st
    let (answers, st) := Call.attempt rest st
    (answer :: answers, st)

/-- The texts that a program interpolates are in a class, its failing calls included. -/
def Call.ProgramClean (T : TextClass) {d : Driver} : List Call → Statement d → Prop
  | [], _ => True
  | call :: rest, st => call.Clean T st ∧ Call.ProgramClean T rest (call.run st).2

end SqlBuilder
