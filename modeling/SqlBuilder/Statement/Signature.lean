import SqlBuilder.Statement.Call

/-!
# Methods by name

A method is called by name with arguments by position and by keyword. Its signature lists the
parameters in order, each with the argument it takes when none is given, if it can be left out;
`Signature.bind` puts the given arguments in their places. `Call.ofArguments` is the call that
results, or a rejected call for an unknown method or arguments that do not fit.
-/

set_option autoImplicit false

namespace SqlBuilder

/-- A parameter of a method. -/
structure Parameter where
  /-- The name. -/
  name : String
  /-- The argument it takes when none is given. -/
  fallback : Option Arg := none
  /-- Whether it is given by keyword only. -/
  byKeyword : Bool := false

/-- The parameters of a method, in order. -/
abbrev Signature := List Parameter

namespace Signature

/-- The arguments by position, put to the parameters in order; none may be left over. -/
def place : Signature → List Arg → Option (List (Parameter × Option Arg))
  | [], [] => some []
  | [], _ :: _ => none
  | parameter :: rest, [] => (place rest []).map ((parameter, none) :: ·)
  | parameter :: rest, argument :: more =>
    if parameter.byKeyword then none
    else (place rest more).map ((parameter, some argument) :: ·)

/-- The places with one more argument by keyword; its parameter must exist and be free. -/
def fill (places : List (Parameter × Option Arg)) (keyword : String × Arg) :
    Option (List (Parameter × Option Arg)) :=
  match places with
  | [] => none
  | (parameter, placed) :: rest =>
    if parameter.name = keyword.1 then
      if placed.isSome then none else some ((parameter, some keyword.2) :: rest)
    else (fill rest keyword).map ((parameter, placed) :: ·)

/-- The argument at a place. -/
def settle (place : Parameter × Option Arg) : Option Arg :=
  match place.2 with
  | some argument => some argument
  | none => place.1.fallback

/-- The arguments of all parameters, in order, if the given ones fit. -/
def bind (signature : Signature) (positional : List Arg) (keywords : List (String × Arg)) :
    Option (List Arg) :=
  match signature.place positional with
  | none => none
  | some places => (keywords.foldlM fill places).bind fun filled => filled.mapM settle

/-- Placing keeps the parameters and their order. -/
theorem map_fst_place {signature : Signature} {positional : List Arg}
    {places : List (Parameter × Option Arg)} (h : place signature positional = some places) :
    places.map Prod.fst = signature := by
  induction signature generalizing positional places with
  | nil =>
    cases positional with
    | nil => exact Option.some.inj h ▸ rfl
    | cons _ _ => cases h
  | cons parameter rest ih =>
    cases positional with
    | nil =>
      obtain ⟨later, found, rfl⟩ := Option.map_eq_some_iff.1 h
      rw [List.map_cons, ih found]
    | cons argument more =>
      rw [place] at h
      split at h
      · cases h
      · obtain ⟨later, found, rfl⟩ := Option.map_eq_some_iff.1 h
        rw [List.map_cons, ih found]

/-- Filling keeps the parameters and their order. -/
theorem map_fst_fill {places filled : List (Parameter × Option Arg)} {keyword : String × Arg}
    (h : fill places keyword = some filled) : filled.map Prod.fst = places.map Prod.fst := by
  induction places generalizing filled with
  | nil => cases h
  | cons first rest ih =>
    obtain ⟨parameter, placed⟩ := first
    rw [fill] at h
    split at h
    · split at h
      · cases h
      · exact Option.some.inj h ▸ rfl
    · obtain ⟨later, found, rfl⟩ := Option.map_eq_some_iff.1 h
      rw [List.map_cons, List.map_cons, ih found]

/-- Binding gives every parameter one argument. -/
theorem length_bind {signature : Signature} {positional arguments : List Arg}
    {keywords : List (String × Arg)} (h : bind signature positional keywords = some arguments) :
    arguments.length = signature.length := by
  unfold bind at h
  split at h
  · cases h
  · rename_i places placed
    obtain ⟨filled, found, settled⟩ := Option.bind_eq_some_iff.1 h
    have kept : filled.map Prod.fst = places.map Prod.fst := by
      clear h placed settled
      induction keywords generalizing places with
      | nil => exact Option.some.inj found ▸ rfl
      | cons keyword more ih =>
        rw [List.foldlM_cons] at found
        obtain ⟨next, stepped, rest⟩ := Option.bind_eq_some_iff.1 found
        rw [ih next rest, map_fst_fill stepped]
    have count : arguments.length = filled.length := by
      clear h placed found kept
      induction filled generalizing arguments with
      | nil => exact Option.some.inj settled ▸ rfl
      | cons first rest ih =>
        rw [List.mapM_cons] at settled
        obtain ⟨argument, _, later⟩ := Option.bind_eq_some_iff.1 settled
        obtain ⟨more, remaining, same⟩ := Option.bind_eq_some_iff.1 later
        obtain rfl : argument :: more = arguments := Option.some.inj same
        exact congrArg (· + 1) (ih remaining)
    rw [count, ← List.length_map Prod.fst, kept, map_fst_place placed]

end Signature

/-- A parameter that must be given. -/
def required (name : String) : Parameter :=
  { name := name }

/-- A parameter that can be left out. -/
def optional (name : String) (fallback : Value) : Parameter :=
  { name := name, fallback := some (.value fallback) }

/-- A parameter that can be left out and is given by keyword only. -/
def keywordOnly (name : String) (fallback : Value) : Parameter :=
  { name := name, fallback := some (.value fallback), byKeyword := true }

namespace Call

/-- A text as an argument. -/
def textArg (s : String) : Arg :=
  .value (.text s)

/-- An argument that was not supplied. -/
def omittedArg : Arg :=
  .value .omitted

/-- The parameters of a condition, up to the connector. -/
def conditionParameters : Signature :=
  [required "column", optional "operator" .omitted, optional "value" .omitted]

/-- The parameters of a join, up to its kind. -/
def joinParameters : Signature :=
  [required "table", optional "first" .null, optional "operator" .null, optional "second" .null]

/-- The connector of a condition. -/
def connectorParameter : Parameter :=
  optional "boolean" (.text "AND")

/-- A call that takes a fixed number of arguments, from those given. -/
def fromSignature (signature : Signature) (make : List Arg → Option Call)
    (positional : List Arg) (keywords : List (String × Arg)) : Call :=
  ((signature.bind positional keywords).bind make).getD (.rejected .wrongType)

/-- A call that takes any number of arguments by position. -/
def fromMany (make : List Arg → Call) (positional : List Arg) (keywords : List (String × Arg)) :
    Call :=
  if keywords.isEmpty then make positional else .rejected .wrongType

/-- A call without arguments. -/
def plain (call : Call) : List Arg → List (String × Arg) → Call :=
  fromSignature [] fun _ => some call

/-- A call with one argument. -/
def unary (name : String) (make : Arg → Call) : List Arg → List (String × Arg) → Call :=
  fromSignature [required name] fun
    | [argument] => some (make argument)
    | _ => none

/-- A condition of a clause with a connector of its own. -/
def condition (clause : Clause) : List Arg → List (String × Arg) → Call :=
  fromSignature (conditionParameters ++ [connectorParameter]) fun
    | [column, operator, value, connector] => some (.require clause column operator value connector)
    | _ => none

/-- An alternative condition of a clause. -/
def alternative (clause : Clause) : List Arg → List (String × Arg) → Call :=
  fromSignature conditionParameters fun
    | [column, operator, value] => some (.require clause column operator value (textArg "OR"))
    | _ => none

/-- A membership test with a given operator. -/
def member (operator : String) : List Arg → List (String × Arg) → Call :=
  fromSignature [required "column", required "values", connectorParameter] fun
    | [column, values, connector] => some (.requireMember operator column values connector)
    | _ => none

/-- A null test with a given operator. -/
def nullTest (operator : String) : List Arg → List (String × Arg) → Call :=
  fromSignature [required "column", connectorParameter] fun
    | [column, connector] => some (.require .rows column (textArg operator) omittedArg connector)
    | _ => none

/-- An alternative null test with a given operator. -/
def alternativeNullTest (operator : String) : List Arg → List (String × Arg) → Call :=
  unary "column" fun column =>
    .require .rows column (textArg operator) omittedArg (textArg "OR")

/-- A join of a given kind with compared columns. -/
def joinOfKind (kind : String) : List Arg → List (String × Arg) → Call :=
  fromSignature joinParameters fun
    | [table, firstColumn, operator, secondColumn] =>
      some (.join table firstColumn operator secondColumn (textArg kind) (.value .null))
    | _ => none

/-- A join of a given kind without compared columns. -/
def bareJoin (kind : String) : List Arg → List (String × Arg) → Call :=
  unary "table" fun table =>
    .join table (.value .null) (.value .null) (.value .null) (textArg kind) (.value .null)

/-- A join of any kind. -/
def anyJoin : List Arg → List (String × Arg) → Call :=
  fromSignature (joinParameters ++ [optional "kind" (.text ""), keywordOnly "using" .null]) fun
    | [table, firstColumn, operator, secondColumn, kind, shared] =>
      some (.join table firstColumn operator secondColumn kind shared)
    | _ => none

/-- The source with an alias. -/
def sourceWithAlias : List Arg → List (String × Arg) → Call :=
  fromSignature [required "source", optional "alias" .null] fun
    | [source, aliasName] => some (.readFrom source aliasName)
    | _ => none

/-- A union of any kind. -/
def anyUnion : List Arg → List (String × Arg) → Call :=
  fromSignature [required "callback", optional "kind" (.text "")] fun
    | [branch, kind] => some (.union branch kind)
    | _ => none

/-- A sort key. -/
def sortKey : List Arg → List (String × Arg) → Call :=
  fromSignature [required "column", optional "direction" (.text "ASC")] fun
    | [column, direction] => some (.order column direction)
    | _ => none

/-- Limit and offset. -/
def paging : List Arg → List (String × Arg) → Call :=
  fromSignature [required "limit", optional "offset" .null] fun
    | [limit, offset] => some (.page limit offset)
    | _ => none

/-- The methods by name, each with the call that its arguments make. -/
def methods : List (String × (List Arg → List (String × Arg) → Call)) :=
  [("select", fromMany .select),
    ("from_", sourceWithAlias),
    ("table", unary "name" fun name => .readFrom name (.value .null)),
    ("into", unary "name" fun name => .readFrom name (.value .null)),
    ("join", anyJoin),
    ("inner_join", joinOfKind "INNER"),
    ("left_join", joinOfKind "LEFT"),
    ("right_join", joinOfKind "RIGHT"),
    ("cross_join", bareJoin "CROSS"),
    ("natural_join", bareJoin "NATURAL"),
    ("union", anyUnion),
    ("union_all", unary "callback" fun branch => .union branch (textArg "ALL")),
    ("where", condition .rows),
    ("or_where", alternative .rows),
    ("where_in", member "IN"),
    ("where_not_in", member "NOT IN"),
    ("where_null", nullTest "IS NULL"),
    ("where_not_null", nullTest "IS NOT NULL"),
    ("or_where_null", alternativeNullTest "IS NULL"),
    ("or_where_not_null", alternativeNullTest "IS NOT NULL"),
    ("having", condition .groups),
    ("or_having", alternative .groups),
    ("group", fromMany .group),
    ("group_by", fromMany .group),
    ("order", sortKey),
    ("order_by", sortKey),
    ("limit", paging),
    ("compile_select", plain .compileSelect),
    ("to_sql", plain .compileSelect),
    ("compile_where", plain (.compileClause .rows)),
    ("compile_having", plain (.compileClause .groups)),
    ("where_bindings", plain (.clauseBindings .rows)),
    ("having_bindings", plain (.clauseBindings .groups)),
    ("get_bindings", plain .allBindings),
    ("compile", plain .compile),
    ("compile_insert", unary "data" .compileInsert),
    ("compile_update", unary "data" .compileUpdate),
    ("compile_delete", plain .compileDelete),
    ("get", plain .get),
    ("first", plain .first),
    ("insert", unary "data" .insert),
    ("update", unary "data" .update),
    ("delete", plain .delete)]

/-- The call of a method by name. -/
def ofArguments (method : String) (positional : List Arg) (keywords : List (String × Arg)) : Call :=
  match methods.lookup method with
  | some make => make positional keywords
  | none => .rejected .noSuchOperation

end Call

/-! ## Conditions on their own

A condition can be resolved without a statement that keeps it. Callbacks then configure statements
with the usual options and without a session, and the connector is taken as it is. -/

namespace Condition

/-- The parameters of a resolution. -/
def resolutionParameters : Signature :=
  Call.conditionParameters ++
    [optional "connector" (.text "AND"), optional "clause" (.text "where")]

/-- The condition that arguments by position and by keyword ask for; the given predicate stands for
an empty group. -/
def ofArguments (d : Driver) (emptyGroup : String) (positional : List Arg)
    (keywords : List (String × Arg)) : Except Error Condition :=
  match Signature.bind resolutionParameters positional keywords with
  | some [column, operator, value, connector, clause] =>
    let request := Request.of column.denote operator.denote value.denote
    let st : Statement d := {}
    (st.resolve emptyGroup clause.toValue.text? connector.toValue request).1
  | _ => .error .wrongType

end Condition

end SqlBuilder
