import SqlBuilder.Driver.Recording
import SqlBuilder.Proofs.Conditions
import SqlBuilder.Proofs.NullWords
import SqlBuilder.Statement.Basic

/-!
# A column with one argument

A condition can be asked for by a column and one more argument, which is then a value or a bare null
test. An argument that is left out or null asks for a null test, and so does a text whose words are
those of a null test. Every other argument is a value: the condition is the one that the column, the
usual operator for such a value and the value ask for. So no text but a bare null test becomes part
of the condition's text.
-/

set_option autoImplicit false

namespace SqlBuilder

open NullTest (NullWords)

variable {d : Driver}

namespace Operand

variable {β : Type}

/-- The operator that an argument is compared by when none is given. -/
def usualOperator : Operand β → String
  | value v => if v.isCollection then "IN" else "="
  | callback _ => "IN"

/-- An argument that asks for a null test when it is the only one. -/
inductive AsksNull : Operand β → Prop
  /-- It is left out. -/
  | omitted : AsksNull (value .omitted)
  /-- It is null. -/
  | null : AsksNull (value .null)
  /-- Its words are those of a null test. -/
  | words {s : String} (null : NullWords s) : AsksNull (value (.text s))

end Operand

/-! ## Requests -/

namespace Request

variable {β : Type} (column : Value)

/-- A lone text is a null test exactly when its words say so. -/
theorem ofTwo_text (s : String) :
    (NullWords s → ofTwo column (.value (.text s) : Operand β) =
      .nullTest column (some (.text s))) ∧
    (¬NullWords s →
      ofTwo column (.value (.text s) : Operand β) = .test column .null (.text s)) := by
  rw [← NullTest.isBare_iff]
  exact ⟨fun bare => if_pos bare, fun bound => if_neg bound⟩

/-- A lone argument that asks for no null test is a value without an operator. -/
theorem ofTwo_of_not_asksNull {a : Operand β} (h : ¬a.AsksNull) :
    ofTwo column a = ofValue column .null a := by
  cases a with
  | callback f => rfl
  | value v =>
    cases v with
    | omitted => exact absurd .omitted h
    | null => exact absurd .null h
    | text s => exact (ofTwo_text column s).2 fun words => h (.words words)
    | _ => rfl

/-- With the usual operator an argument is a value compared by it. -/
theorem ofThree_usualOperator (a : Operand β) :
    ofThree column (.value (.text a.usualOperator)) a =
      ofValue column (.text a.usualOperator) a := by
  have plain : NullTest.mentionsNull a.usualOperator = false := by
    cases a with
    | callback f => exact (by decide : NullTest.mentionsNull "IN" = false)
    | value v =>
      rw [Operand.usualOperator]
      split <;> decide
  simp [ofThree, Operand.toValue, plain]

end Request

/-! ## Conditions -/

namespace Condition

/-- Without an operator a plain value is tested by the usual one. -/
theorem ofTest_usualOperator {β : Type} (clause : Option String) (connector column v : Value) :
    ofTest clause connector column .null v =
      ofTest clause connector column (.text (Operand.value v : Operand β).usualOperator) v := by
  rw [Operand.usualOperator]
  cases collection : v.isCollection with
  | true => simp only [ofTest, collection, if_true]; rfl
  | false => simp only [ofTest, collection, Bool.false_eq_true, if_false]; rfl

/-- A null test on a column has the given operator, or the usual one. -/
theorem ofNullTest_text (k : Connector) (column : String) (operator : Option String) :
    ofNullTest (connectorField k) (.text column) (operator.map .text) =
      .ok (.nullTest k column (operator.getD "IS NULL")) := by
  cases k <;> cases operator <;> rfl

/-- A text is tested as the one value of a comparison. -/
theorem ofTest_text (clause : Option String) (k : Connector) (column s : String) :
    ofTest clause (connectorField k) (.text column) .null (.text s) =
      .ok (.simple k column "=" (.text s)) := by
  cases k <;> rfl

end Condition

namespace Statement

/-- A request with a value gives no null test. -/
theorem resolve_ofValue_ne_nullTest (st : Statement d) {emptyGroup : String}
    {clause : Option String} {connector column operator : Value} {a : Argument d} {k : Connector}
    {col op : String} :
    (st.resolve emptyGroup clause connector (Request.ofValue column operator a)).1 ≠
      .ok (.nullTest k col op) := by
  intro made
  cases a with
  | value v =>
    rcases Condition.of_ofTest made with ⟨_, _, _, _, other, -⟩ | ⟨_, _, _, other, -⟩
    · cases other
    · cases other
  | callback build =>
    obtain ⟨compiled, -, found⟩ := of_bind_eq_ok made
    obtain ⟨_, _, _, other, -⟩ := Condition.of_ofSubquery found
    cases other

/-- Without an operator an argument is resolved as with the usual one. -/
theorem resolve_ofValue_null (st : Statement d) (emptyGroup : String) (clause : Option String)
    (connector column : Value) (a : Argument d) :
    st.resolve emptyGroup clause connector (Request.ofValue column .null a) =
      st.resolve emptyGroup clause connector
        (Request.ofValue column (.text a.usualOperator) a) := by
  cases a with
  | value v =>
    exact congrArg (·, st) (Condition.ofTest_usualOperator clause connector column v)
  | callback build => rfl

/-- The condition that a column, an operator and a value ask for; either can be left out. -/
def resolveOn (st : Statement d) (emptyGroup : String) (clause : Option String) (k : Connector)
    (column : String) (operator value : Argument d) : Outcome d Condition :=
  st.resolve emptyGroup clause (Condition.connectorField k)
    (Request.of (.value (.text column)) operator value)

section Column

variable (st : Statement d) (emptyGroup : String) (clause : Option String) (k : Connector)
  (column : String) {a : Argument d}

/-- A lone argument is resolved by what it asks for. -/
theorem resolveOn_alone :
    st.resolveOn emptyGroup clause k column a .omitted =
      st.resolve emptyGroup clause (Condition.connectorField k)
        (Request.ofTwo (.text column) a) := rfl

/-- A lone argument that asks for a null test gives it. -/
theorem resolveOn_of_nullTest (operator : Option String)
    (asked : Request.ofTwo (.text column) a = .nullTest (.text column) (operator.map .text)) :
    st.resolveOn emptyGroup clause k column a .omitted =
      (.ok (.nullTest k column (operator.getD "IS NULL")), st) := by
  rw [resolveOn_alone, asked]
  exact congrArg (·, st) (Condition.ofNullTest_text k column operator)

/-- A lone text that is no null test is compared. -/
theorem resolveOn_of_not_nullWords {s : String} (bound : ¬NullWords s) :
    st.resolveOn emptyGroup clause k column (.value (.text s)) .omitted =
      (.ok (.simple k column "=" (.text s)), st) := by
  rw [resolveOn_alone, (Request.ofTwo_text _ s).2 bound]
  exact congrArg (·, st) (Condition.ofTest_text clause k column s)

/-- A lone argument that asks for no null test is a value without an operator. -/
theorem resolveOn_of_not_asksNull (plain : ¬a.AsksNull) :
    st.resolveOn emptyGroup clause k column a .omitted =
      st.resolve emptyGroup clause (Condition.connectorField k)
        (Request.ofValue (.text column) .null a) := by
  rw [resolveOn_alone, Request.ofTwo_of_not_asksNull _ plain]

/-- Such an argument is the same value with the usual operator. -/
theorem resolveOn_usualOperator (plain : ¬a.AsksNull) :
    st.resolveOn emptyGroup clause k column (.value (.text a.usualOperator)) a =
      st.resolveOn emptyGroup clause k column a .omitted := by
  have present : Request.of (.value (.text column)) (.value (.text a.usualOperator)) a =
      Request.ofThree (.text column) (.value (.text a.usualOperator)) a := by
    cases a with
    | callback build => rfl
    | value v =>
      cases v with
      | omitted => exact absurd .omitted plain
      | _ => rfl
  rw [st.resolveOn_of_not_asksNull emptyGroup clause k column plain, resolve_ofValue_null,
    resolveOn, present, Request.ofThree_usualOperator]

end Column

end Statement

/-- A column with one more argument is resolved by what the argument is. Left out or null it asks
for IS NULL; a text whose words are those of a null test becomes that null test as it is written,
and mentions null. No other argument gives a null test: it is resolved as with the operator that is
usual for it, with the same condition or the same error and the same statement afterwards. So every
other text is bound as the one value of a comparison. -/
theorem lone_argument (st : Statement d) (emptyGroup : String) (clause : Option String)
    (k : Connector) (column : String) (a : Argument d) :
    let resolve := st.resolveOn emptyGroup clause k column
    let isNull : Condition := .nullTest k column "IS NULL"
    (a = .omitted ∨ a = .value .null →
      resolve a .omitted = (.ok isNull, st) ∧
        isNull.render = column ++ " IS NULL" ∧ isNull.params = []) ∧
    (∀ s : String, a = .value (.text s) → NullWords s →
      resolve a .omitted = (.ok (.nullTest k column s), st) ∧ NullTest.mentionsNull s = true) ∧
    (∀ (k' : Connector) (col op : String),
      (resolve a .omitted).1 = .ok (.nullTest k' col op) → a.AsksNull) ∧
    (¬a.AsksNull → resolve a .omitted = resolve (.value (.text a.usualOperator)) a) ∧
    (∀ s : String, a = .value (.text s) → ¬NullWords s →
      let bound : Condition := .simple k column "=" (.text s)
      resolve a .omitted = (.ok bound, st) ∧
        bound.render = column ++ " = ?" ∧ bound.params = [.text s]) := by
  intro resolve isNull
  refine ⟨?omitted, ?words, ?others, ?usual, ?bound⟩
  case omitted =>
    intro nothing
    refine ⟨?_, String.append_assoc, rfl⟩
    rcases nothing with rfl | rfl
    · exact st.resolveOn_of_nullTest emptyGroup clause k column none rfl
    · exact st.resolveOn_of_nullTest emptyGroup clause k column none rfl
  case words =>
    rintro s rfl words
    have asked := (Request.ofTwo_text (β := Builder d) (.text column) s).1 words
    exact ⟨st.resolveOn_of_nullTest emptyGroup clause k column (some s) asked,
      NullTest.mentionsNull_of_nullWords words⟩
  case others =>
    intro k' col op made
    -- Anything else is resolved as a test of its value, which never makes a null test.
    by_contra plain
    dsimp only [resolve] at made
    rw [st.resolveOn_of_not_asksNull emptyGroup clause k column plain] at made
    exact st.resolve_ofValue_ne_nullTest made
  case usual =>
    exact fun plain => (st.resolveOn_usualOperator emptyGroup clause k column plain).symm
  case bound =>
    rintro s rfl words bound
    exact ⟨st.resolveOn_of_not_nullWords emptyGroup clause k column words,
      String.append_assoc.trans String.append_assoc, rfl⟩

/-- A null test in mixed case with wide blanks. -/
def spacedNullTest : String :=
  " is\tNot  NULL\u2003"

/-- A text that mentions null without being a null test. -/
def mentioningNull : String :=
  "x' OR 1=1 OR y IS NULL"

/-- A null test is taken as it is written, and a text that only mentions null is bound. -/
theorem lone_argument_texts :
    let resolve (a : Argument Recording.driver) :=
      (({} : Statement Recording.driver).resolveOn "1=1" (some "where") .or "deleted_at" a
        .omitted).1
    (resolve .omitted).map Condition.render = .ok "deleted_at IS NULL" ∧
      resolve (.value (.text spacedNullTest)) =
        .ok (.nullTest .or "deleted_at" spacedNullTest) ∧
      resolve (.value (.text mentioningNull)) =
        .ok (.simple .or "deleted_at" "=" (.text mentioningNull)) ∧
      resolve (.value (.series .list [])) =
        .error (.emptyValueList "deleted_at IN" (some "where")) := by
  have spaced : NullWords spacedNullTest :=
    (NullTest.isBare_iff _).1 (by decide)
  have mentioning : ¬NullWords mentioningNull :=
    mt (NullTest.isBare_iff _).2 (by decide)
  have known := lone_argument ({} : Statement Recording.driver) "1=1" (some "where") .or
    "deleted_at"
  refine ⟨?_, ?_, ?_, ?_⟩
  · obtain ⟨made, shown, -⟩ := (known .omitted).1 (.inl rfl)
    exact congrArg (Except.map Condition.render) (congrArg Prod.fst made) |>.trans
      (congrArg Except.ok shown)
  · exact congrArg Prod.fst ((known _).2.1 spacedNullTest rfl spaced).1
  · exact congrArg Prod.fst ((known _).2.2.2.2 mentioningNull rfl mentioning).1
  · have collection : ¬(Operand.value (.series .list []) : Argument Recording.driver).AsksNull :=
      nofun
    exact congrArg Prod.fst ((known _).2.2.2.1 collection)

end SqlBuilder
