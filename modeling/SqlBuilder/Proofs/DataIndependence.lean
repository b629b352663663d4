import SqlBuilder.Driver.Recording
import SqlBuilder.Proofs.Interpolation
import SqlBuilder.Proofs.Rebinding

/-!
# Bound data never become text

The bound data of a program are the values that it binds: compared values, members of lists and the
values of the data of mutations, callbacks included. Programs that differ only in these have the
same numbering, which has numbers in their place. What a program answers is what its numbering
answers, with the data for their numbers among the bound values: the data decide no error, no text
and no choice.
-/

set_option autoImplicit false

namespace SqlBuilder

open Sql (Compiled)

variable {f : Value → Value}

/-! ## Numbered values -/

/-- The number of a bound value, as a value. -/
def slot (k : Nat) : Value :=
  .int k

/-- So many numbers in a row. -/
def slots (k count : Nat) : List Value :=
  (List.range' k count).map slot

/-- A map gives for the numbers from one on these values. -/
def Fills (f : Value → Value) : Nat → List Value → Prop
  | _, [] => True
  | k, v :: vs => f (slot k) = v ∧ Fills f (k + 1) vs

/-- The numbers are filled in two parts. -/
theorem fills_append {k : Nat} {xs ys : List Value} (h : Fills f k (xs ++ ys)) :
    Fills f k xs ∧ Fills f (k + xs.length) ys := by
  induction xs generalizing k with
  | nil => exact ⟨trivial, h⟩
  | cons x xs ih =>
    obtain ⟨first, rest⟩ := ih h.2
    have further : k + 1 + xs.length = k + (x :: xs).length := by
      rw [List.length_cons, Nat.add_right_comm, Nat.add_assoc]
    exact ⟨⟨h.1, first⟩, further ▸ rest⟩

/-- The values for numbers in a row. -/
theorem Fills.map_slots {k : Nat} {vs : List Value} (h : Fills f k vs) :
    (slots k vs.length).map f = vs := by
  induction vs generalizing k with
  | nil => rfl
  | cons v vs ih =>
    have split : slots k (v :: vs).length = slot k :: slots (k + 1) vs.length := by
      rw [slots, List.length_cons, List.range'_succ, List.map_cons, slots]
    rw [split, List.map_cons, h.1, ih h.2]

/-- The datum with a number, or a default for what is no number of a datum. -/
def datum (data : List Value) (default : Value) : Value → Value
  | .int n => if n < 0 then default else data.getD n.toNat default
  | _ => default

/-- The data are those with their numbers. -/
theorem fills_datum (data : List Value) (default : Value) : Fills (datum data default) 0 data := by
  have drop (k : Nat) (vs : List Value) (h : data.drop k = vs) :
      Fills (datum data default) k vs := by
    induction vs generalizing k with
    | nil => trivial
    | cons v vs ih =>
      have here : data[k]? = some v := by
        rw [← List.head?_drop, h]
        rfl
      have later : data.drop (k + 1) = vs := by
        rw [← List.tail_drop, h]
        rfl
      refine ⟨?_, ih (k + 1) later⟩
      have natural : ¬((k : Int) < 0) := by omega
      rw [slot, datum, if_neg natural, Int.toNat_natCast, List.getD_eq_getElem?_getD, here]
      rfl
  exact drop 0 data rfl

/-! ## Where data are bound -/

/-- A kind of argument: which values it binds, what it is with numbers in their place, and how the
two are related. -/
structure Site where
  /-- The values that an argument binds. -/
  data : Value → List Value
  /-- The argument with numbers for them. -/
  number : Nat → Value → Value
  /-- How an argument with numbers is related to one with values. -/
  Allowed : (Value → Value) → Value → Value → Prop
  /-- An argument is so related to its numbering. -/
  law : ∀ {f k v}, Fills f k (data v) → Allowed f (number k v) v

namespace Site

/-- The items of a collection, if it can be listed. -/
def listed (v : Value) : List Value :=
  v.items.toOption.getD []

/-- A collection of numbers of the same length; one that is too long to be listed stays so. -/
def numberListed (k : Nat) (v : Value) : Value :=
  match v.items, v with
  | .ok items, _ => .series .list (slots k items.length)
  | .error _, .range start stop step => .range 0 (Value.rangeSize start stop step) 1
  | .error _, v => v

/-- The numbers in a collection stand for its items. -/
theorem items_numberListed {k : Nat} {v : Value} (h : Fills f k (listed v)) :
    v.items = (numberListed k v).items.map (List.map f) := by
  unfold numberListed
  cases found : v.items with
  | ok items =>
    rw [listed, found] at h
    exact congrArg Except.ok h.map_slots.symm
  | error e =>
    cases v with
    | range start stop step =>
      have size (n : Nat) : Value.rangeSize 0 n 1 = n := by simp [Value.rangeSize]
      have same : (Value.range 0 (Value.rangeSize start stop step) 1).items = .error e := by
        unfold Value.items Value.yielded at found ⊢
        simp only [size] at found ⊢
        cases asked : listSize (Value.rangeSize start stop step) with
        | error e' =>
          rw [asked] at found
          exact congrArg Except.error (Except.error.inj found)
        | ok n =>
          rw [asked] at found
          cases found
      rw [same]
      rfl
    | _ =>
      rw [found]
      rfl

/-- A collection of numbers is a collection. -/
theorem isCollection_numberListed {v : Value} (h : v.isCollection = true) (k : Nat) :
    (numberListed k v).isCollection = true := by
  unfold numberListed
  split
  · rfl
  · rfl
  · exact h

/-- An argument that binds nothing. -/
def nothing : Site where
  data _ := []
  number _ v := v
  Allowed _ := Eq
  law _ := rfl

/-- A compared value: a collection binds its items, anything else itself. -/
def value : Site where
  data v := if v.isCollection then listed v else [v]
  number k v := if v.isCollection then numberListed k v else slot k
  Allowed f n v := n ≠ .omitted ∧ Condition.Rebound f n v
  law := by
    intro f k v h
    by_cases many : v.isCollection = true
    · rw [if_pos many] at h ⊢
      have collection := isCollection_numberListed many k
      refine ⟨?_, .collection collection many (items_numberListed h)⟩
      intro omitted
      rw [omitted] at collection
      cases collection
    · rw [if_neg many] at h ⊢
      have same : f (slot k) = v := h.1
      have one : v.isCollection = false := Bool.eq_false_iff.2 many
      refine ⟨(fun omitted => by cases omitted), ?_⟩
      have scalar : Condition.Rebound f (slot k) (f (slot k)) :=
        .scalar rfl (by rw [same]; exact one)
      rwa [same] at scalar

/-- Whether a lone argument after the column asks for a null test. -/
def asksNull : Value → Bool
  | .omitted | .null => true
  | .text s => NullTest.isBare s
  | _ => false

/-- The lone argument after a column: a compared value, unless it asks for a null test. -/
def lone : Site where
  data v := if asksNull v then [] else value.data v
  number k v := if asksNull v then v else value.number k v
  Allowed f n v := (asksNull v = true ∧ n = v) ∨
    (asksNull n = false ∧ asksNull v = false ∧ Condition.Rebound f n v)
  law := by
    intro f k v h
    by_cases null : asksNull v = true
    · rw [if_pos null]
      exact .inl ⟨null, rfl⟩
    · rw [if_neg null] at h ⊢
      refine .inr ⟨?_, Bool.eq_false_iff.2 null, (value.law h).2⟩
      show asksNull (if v.isCollection then numberListed k v else slot k) = false
      split
      · rename_i many
        have collection := isCollection_numberListed many k
        cases given : numberListed k v with
        | null => rw [given] at collection; cases collection
        | omitted => rw [given] at collection; cases collection
        | text s => rw [given] at collection; cases collection
        | _ => rfl
      · rfl

/-- The values of a membership test, in any form that can be iterated. -/
def members : Site where
  data := listed
  number := numberListed
  Allowed f n v := v.items = n.items.map (List.map f)
  law h := items_numberListed h

/-- The data of a mutation: the values of a mapping are bound, its keys are not. -/
def fields : Site where
  data v := (v.pairs?.getD []).map Prod.snd
  number k v :=
    match v with
    | .mapping pairs => .mapping ((pairs.map Prod.fst).zip (slots k pairs.length))
    | v => v
  Allowed f n v := v = State.rebindData f n
  law := by
    intro f k v h
    cases v with
    | mapping pairs =>
      have values : (slots k pairs.length).map f = pairs.map Prod.snd := by
        have filled := Fills.map_slots h
        rwa [List.length_map] at filled
      have zipped : (pairs.map Prod.fst).zip (pairs.map Prod.snd) = pairs :=
        (List.zip_of_prod rfl rfl).symm
      rw [State.rebindData, ← List.zip_map_right, values, zipped]
    | _ => rfl

end Site

/-! ## Numbered programs -/

/-- Whether an argument is left out. -/
def Arg.isOmitted : Arg → Bool
  | .value .omitted => true
  | _ => false

mutual

/-- The values that an argument binds, in a callback all that its calls bind. -/
def Arg.data : Arg → Site → List Value
  | .value v, site => site.data v
  | .callback calls, _ => Call.dataAll calls

/-- The values that a call binds. -/
def Call.data : Call → List Value
  | .readFrom source _ => source.data .nothing
  | .union branch _ => branch.data .nothing
  | .require _ column operator value _ =>
    column.data .nothing ++
      (if value.isOmitted then operator.data .lone else value.data .value)
  | .requireMember _ column values _ => column.data .nothing ++ values.data .members
  | .compileInsert data | .compileUpdate data => Site.fields.data data.toValue
  | _ => []

/-- The values that calls bind. -/
def Call.dataAll : List Call → List Value
  | [] => []
  | call :: rest => call.data ++ Call.dataAll rest

end

mutual

/-- An argument with numbers from one on for the values that it binds. -/
def Arg.number : Arg → Site → Nat → Arg
  | .value v, site, k => .value (site.number k v)
  | .callback calls, _, k => .callback (Call.numberAll calls k)

/-- A call with numbers from one on for the values that it binds. -/
def Call.number : Call → Nat → Call
  | .readFrom source aliasName, k => .readFrom (source.number .nothing k) aliasName
  | .union branch kind, k => .union (branch.number .nothing k) kind
  | .require clause column operator value connector, k =>
    let next := k + (column.data .nothing).length
    .require clause (column.number .nothing k)
      (if value.isOmitted then operator.number .lone next else operator)
      (if value.isOmitted then value else value.number .value next) connector
  | .requireMember operator column values connector, k =>
    .requireMember operator (column.number .nothing k)
      (values.number .members (k + (column.data .nothing).length)) connector
  | .compileInsert data, k => .compileInsert (.value (Site.fields.number k data.toValue))
  | .compileUpdate data, k => .compileUpdate (.value (Site.fields.number k data.toValue))
  | call, _ => call

/-- Calls with numbers from one on for the values that they bind. -/
def Call.numberAll : List Call → Nat → List Call
  | [], _ => []
  | call :: rest, k => call.number k :: Call.numberAll rest (k + call.data.length)

end

mutual

/-- Whether an argument makes no call that runs on a driver. -/
def Arg.isOffline : Arg → Bool
  | .value _ => true
  | .callback calls => Call.allOffline calls

/-- Whether a call only builds or compiles, its callbacks included. -/
def Call.isOffline : Call → Bool
  | .readFrom source _ => source.isOffline
  | .union branch _ => branch.isOffline
  | .require _ column operator value _ =>
    column.isOffline && operator.isOffline && value.isOffline
  | .requireMember _ column values _ => column.isOffline && values.isOffline
  | .get | .first | .insert _ | .update _ | .delete => false
  | _ => true

/-- Whether calls only build or compile. -/
def Call.allOffline : List Call → Bool
  | [] => true
  | call :: rest => call.isOffline && Call.allOffline rest

end

/-- An answer with other values in the places of the bound ones. -/
def Answer.rebind (f : Value → Value) : Answer → Answer
  | .compiled result => .compiled (result.rebind f)
  | .bindings values => .bindings (values.map f)
  | answer => answer

/-! ## A call and its numbering -/

variable {d : Driver}

/-- What a lone argument asks for, with other values. -/
theorem Request.rebound_ofTwo (column : Value) {n v : Argument d}
    (h : Operand.Rebound f (Site.lone.Allowed f) n v) :
    Request.Rebound f (.ofTwo column n) (.ofTwo column v) := by
  cases h with
  | callback h => exact .subquery column .null h
  | @value n v h =>
    have compared {v : Value} (plain : Site.asksNull v = false) :
        Request.ofTwo (β := Builder d) column (.value v) = .test column .null v := by
      cases v with
      | omitted => cases plain
      | null => cases plain
      | text s =>
        have bare : NullTest.isBare s = false := plain
        simp [Request.ofTwo, bare]
      | _ => rfl
    rcases h with ⟨null, rfl⟩ | ⟨plain, plain', h⟩
    · cases n with
      | omitted => exact .nullTest column none
      | null => exact .nullTest column none
      | text s =>
        have bare : NullTest.isBare s = true := null
        simp only [Request.ofTwo, bare, if_true]
        exact .nullTest column (some (.text s))
      | _ => cases null
    · rw [compared plain, compared plain']
      exact .test column .null h

/-- What an operator and a value ask for, with other values. -/
theorem Request.rebound_ofThree (column : Value) (operator : Argument d) {n v : Argument d}
    (h : Operand.Rebound f (Site.value.Allowed f) n v) :
    Request.Rebound f (.ofThree column operator n) (.ofThree column operator v) := by
  have tested (operator : Value) :
      Request.Rebound f (.ofValue column operator n) (.ofValue column operator v) := by
    cases h with
    | callback h => exact .subquery column operator h
    | value h => exact .test column operator h.2
  unfold Request.ofThree
  split
  · split
    · exact .nullTest column _
    · exact tested _
  · exact tested _
  · exact tested _

/-- What a column and a lone argument ask for, with other values. -/
theorem Request.rebound_of_lone {column column' n v : Argument d}
    (hc : Operand.Rebound f Eq column column') (h : Operand.Rebound f (Site.lone.Allowed f) n v) :
    Request.Rebound f (.of column n (.value .omitted)) (.of column' v (.value .omitted)) := by
  cases hc with
  | callback h => exact .group h
  | @value column _ same =>
    rw [← same]
    exact rebound_ofTwo column h

/-- What a column, an operator and a value ask for, with other values. -/
theorem Request.rebound_of {column column' n v : Argument d}
    (hc : Operand.Rebound f Eq column column') (operator : Argument d)
    (h : Operand.Rebound f (Site.value.Allowed f) n v) (given : v ≠ .value .omitted) :
    Request.Rebound f (.of column operator n) (.of column' operator v) := by
  have three (column : Value) {n : Argument d} (given : n ≠ .value .omitted) :
      Request.of (.value column) operator n = .ofThree column operator n := by
    unfold Request.of
    split
    · rename_i same
      cases same
    · exact absurd rfl given
    · rename_i same _
      rw [Operand.value.inj same]
  cases hc with
  | callback h => exact .group h
  | @value column _ same =>
    have given' : n ≠ .value .omitted := by
      rintro rfl
      cases h with
      | value allowed => exact allowed.1 rfl
    rw [← same, three column given, three column given']
    exact rebound_ofThree column operator h

/-- A membership test with other values. -/
theorem Statement.requireMember_rebound (st : Statement d) (operator : String)
    {column column' n v : Argument d} (hc : Operand.Rebound f Eq column column')
    (h : Operand.Rebound f (Site.members.Allowed f) n v) (connector : Value) :
    (st.rebind f).requireMember operator column' v connector =
      Outcome.rebind f id (st.requireMember operator column n connector) := by
  cases h with
  | callback h =>
    refine st.require_rebound (Request.rebound_of hc _ (.callback h) ?_) .rows connector
    intro omitted
    cases omitted
  | @value n v h =>
    have items : v.items = n.items.map (List.map f) := h
    simp only [requireMember, items]
    cases n.items with
    | error e => rfl
    | ok found =>
      have listed : Site.value.Allowed f (.series .list found) (.series .list (found.map f)) :=
        ⟨(fun omitted => by cases omitted), .collection rfl rfl rfl⟩
      refine st.require_rebound (Request.rebound_of hc _ (.value listed) ?_) .rows connector
      intro omitted
      cases omitted

/-- The answer of a method that gives the statement itself. -/
theorem Outcome.self_rebind (outcome : Outcome d Unit) :
    (Outcome.rebind f id outcome).self = Outcome.rebind f (Answer.rebind f) outcome.self := by
  obtain ⟨result, st⟩ := outcome
  cases result <;> rfl

/-- The answer of a call that compiles. -/
theorem Outcome.compiled_rebind (st : Statement d) {before after : Except Error Compiled}
    (h : after = before.map (Compiled.rebind f)) :
    (after.map Answer.compiled, st.rebind f) =
      Outcome.rebind f (Answer.rebind f) (before.map Answer.compiled, st) := by
  rw [h]
  cases before <;> rfl

/-- An argument that is left out means so. -/
theorem Arg.denote_of_isOmitted {argument : Arg} (h : argument.isOmitted = true) :
    argument.denote (d := d) = .value .omitted := by
  unfold Arg.isOmitted at h
  split at h
  · rfl
  · cases h

/-- Only an argument that is left out means so. -/
theorem Arg.denote_ne_omitted {argument : Arg} (h : ¬argument.isOmitted = true) :
    argument.denote (d := d) ≠ .value .omitted := by
  intro same
  cases argument with
  | callback calls => cases same
  | value v =>
    have omitted : v = .omitted := Operand.value.inj same
    exact h (by rw [omitted, Arg.isOmitted])

/-- What a condition asks for is what its numbering asks for, with the values for their numbers: a
lone argument is numbered when the value is left out, and the value otherwise. -/
theorem Request.rebound_number {column operator value : Arg} {k j : Nat}
    (hc : Operand.Rebound (d := d) f Eq (column.number .nothing k).denote column.denote)
    (alone : value.isOmitted = true → Operand.Rebound (d := d) f (Site.lone.Allowed f)
      (operator.number .lone j).denote operator.denote)
    (compared : ¬value.isOmitted = true → Operand.Rebound (d := d) f (Site.value.Allowed f)
      (value.number .value j).denote value.denote) :
    Request.Rebound (d := d) f
      (.of (column.number .nothing k).denote
        (if value.isOmitted then operator.number .lone j else operator).denote
        (if value.isOmitted then value else value.number .value j).denote)
      (.of column.denote operator.denote value.denote) := by
  by_cases left : value.isOmitted = true
  · have omitted : value.denote (d := d) = .value .omitted := Arg.denote_of_isOmitted left
    rw [if_pos left, if_pos left, omitted]
    exact Request.rebound_of_lone hc (alone left)
  · rw [if_neg left, if_neg left]
    exact Request.rebound_of hc _ (compared left) (Arg.denote_ne_omitted left)

namespace Call

variable (st : Statement d)

/-- Compiling the main clause does not depend on values. -/
theorem compileSelect_rebind : compileSelect.run (st.rebind f) =
    Outcome.rebind f (Answer.rebind f) (compileSelect.run st) := by
  have same : (st.rebind f).state.selectText = st.state.selectText := State.selectText_rebind _
  rw [run, same, run]
  cases st.state.selectText <;> rfl

/-- Compiling a clause does not depend on values. -/
theorem compileClause_rebind (clause : Clause) : (compileClause clause).run (st.rebind f) =
    Outcome.rebind f (Answer.rebind f) ((compileClause clause).run st) := by
  have same : (st.rebind f).state.clauseText clause = st.state.clauseText clause :=
    State.clauseText_rebind _ _
  rw [run, same]
  rfl

/-- The values of a clause are those that were bound. -/
theorem clauseBindings_rebind (clause : Clause) : (clauseBindings clause).run (st.rebind f) =
    Outcome.rebind f (Answer.rebind f) ((clauseBindings clause).run st) := by
  have same : (st.rebind f).state.clauseParams clause = (st.state.clauseParams clause).map f :=
    State.clauseParams_rebind _ _
  rw [run, same]
  rfl

/-- The values of all clauses are those that were bound. -/
theorem allBindings_rebind : allBindings.run (st.rebind f) =
    Outcome.rebind f (Answer.rebind f) (allBindings.run st) := by
  have same : (st.rebind f).state.allBindings = st.state.allBindings.map f :=
    State.allBindings_rebind _
  rw [run, same]
  rfl

/-- An insertion binds the values of its data. -/
theorem compileInsert_number (data : Arg) (k : Nat)
    (fills : Fills f k (compileInsert data).data) : (compileInsert data).run (st.rebind f) =
      Outcome.rebind f (Answer.rebind f) (((compileInsert data).number k).run st) := by
  have law : data.toValue = State.rebindData f (Site.fields.number k data.toValue) :=
    Site.fields.law fills
  rw [run, law]
  exact Outcome.compiled_rebind st (st.state.compileInsert_rebind _)

/-- An update binds the values of its data. -/
theorem compileUpdate_number (data : Arg) (k : Nat)
    (fills : Fills f k (compileUpdate data).data) : (compileUpdate data).run (st.rebind f) =
      Outcome.rebind f (Answer.rebind f) (((compileUpdate data).number k).run st) := by
  have law : data.toValue = State.rebindData f (Site.fields.number k data.toValue) :=
    Site.fields.law fills
  rw [run, law]
  exact Outcome.compiled_rebind st (st.state.compileUpdate_rebind _)

end Call

mutual

/-- What an argument means is what its numbering means, with the values for their numbers. -/
theorem Arg.denote_number (argument : Arg) (site : Site) (k : Nat)
    (fills : Fills f k (argument.data site)) (offline : argument.isOffline = true) :
    Operand.Rebound (d := d) f (site.Allowed f) (argument.number site k).denote
      argument.denote := by
  cases argument with
  | value v => exact .value (site.law fills)
  | callback calls => exact .callback (Call.runAll_number calls k fills offline)

/-- A call answers what its numbering answers, with the values for their numbers, in a statement
with the values as well. -/
theorem Call.run_number (call : Call) (k : Nat) (fills : Fills f k call.data)
    (offline : call.isOffline = true) (st : Statement d) :
    call.run (st.rebind f) = Outcome.rebind f (Answer.rebind f) ((call.number k).run st) := by
  cases call with
  | select columns => exact (congrArg _ (st.select_rebind _)).trans (Outcome.self_rebind _)
  | readFrom source aliasName =>
    have same := source.denote_number .nothing k fills offline
    exact (congrArg _ (st.readFrom_rebound same _)).trans (Outcome.self_rebind _)
  | join table first operator second kind shared =>
    exact (congrArg _ (st.join_rebind _)).trans (Outcome.self_rebind _)
  | union branch kind =>
    have same := branch.denote_number .nothing k fills offline
    exact (congrArg _ (st.union_rebound same _)).trans (Outcome.self_rebind _)
  | require clause column operator value connector =>
    obtain ⟨columnFills, rest⟩ := fills_append fills
    simp only [Call.isOffline, Bool.and_eq_true] at offline
    have hc := column.denote_number .nothing k columnFills offline.1.1
    have alone (left : value.isOmitted = true) :=
      operator.denote_number .lone _ (by rwa [if_pos left] at rest) offline.1.2
    have compared (given : ¬value.isOmitted = true) :=
      value.denote_number .value _ (by rwa [if_neg given] at rest) offline.2
    have request := Request.rebound_number hc alone compared
    exact (congrArg _ (st.require_rebound request clause _)).trans (Outcome.self_rebind _)
  | requireMember operator column values connector =>
    obtain ⟨columnFills, rest⟩ := fills_append fills
    simp only [Call.isOffline, Bool.and_eq_true] at offline
    have hc := column.denote_number .nothing k columnFills offline.1
    have hv := values.denote_number .members _ rest offline.2
    exact (congrArg _ (st.requireMember_rebound operator hc hv _)).trans (Outcome.self_rebind _)
  | group columns => exact (congrArg _ (st.group_rebind _)).trans (Outcome.self_rebind _)
  | order column direction =>
    exact (congrArg _ (st.order_rebind _ _)).trans (Outcome.self_rebind _)
  | page limit offset => exact (congrArg _ (st.page_rebind _ _)).trans (Outcome.self_rebind _)
  | compile => exact Outcome.compiled_rebind st st.state.compile_rebind
  | compileSelect => exact Call.compileSelect_rebind st
  | compileClause clause => exact Call.compileClause_rebind st clause
  | clauseBindings clause => exact Call.clauseBindings_rebind st clause
  | allBindings => exact Call.allBindings_rebind st
  | compileInsert data => exact Call.compileInsert_number st data k fills
  | compileUpdate data => exact Call.compileUpdate_number st data k fills
  | compileDelete => exact Outcome.compiled_rebind st st.state.compileDelete_rebind
  | get => cases offline
  | first => cases offline
  | insert data => cases offline
  | update data => cases offline
  | delete => cases offline
  | rejected error => rfl

/-- Calls do what their numbering does, with the values for their numbers. -/
theorem Call.runAll_number (calls : List Call) (k : Nat) (fills : Fills f k (Call.dataAll calls))
    (offline : Call.allOffline calls = true) :
    Builder.Rebound (d := d) f (Call.runAll (Call.numberAll calls k)) (Call.runAll calls) := by
  intro st
  cases calls with
  | nil => rfl
  | cons call rest =>
    obtain ⟨here, later⟩ := fills_append fills
    simp only [Call.allOffline, Bool.and_eq_true] at offline
    rw [Call.runAll, Call.numberAll, Call.runAll, call.run_number k here offline.1 st]
    obtain ⟨outcome, after⟩ := (call.number k).run st
    cases outcome with
    | error e => rfl
    | ok answer => exact Call.runAll_number rest _ later offline.2 after

end

/-- The answers to a program are those to its numbering, with the values for their numbers. -/
theorem Call.attempt_number (calls : List Call) (k : Nat) (fills : Fills f k (Call.dataAll calls))
    (offline : Call.allOffline calls = true) (st : Statement d) :
    (Call.attempt calls (st.rebind f)).1 =
      (Call.attempt (Call.numberAll calls k) st).1.map (Except.map (Answer.rebind f)) := by
  induction calls generalizing k st with
  | nil => rfl
  | cons call rest ih =>
    obtain ⟨here, later⟩ := fills_append fills
    simp only [Call.allOffline, Bool.and_eq_true] at offline
    rw [Call.attempt, Call.numberAll, Call.attempt, call.run_number k here offline.1 st]
    exact congrArg _ (ih _ later offline.2 _)

/-! ## Numbers among bound values -/

/-- The values that an answer gives as bound. -/
def Answer.bound : Answer → List Value
  | .compiled result => result.params
  | .bindings values => values
  | _ => []

/-- A value whose datum does not depend on the default is the number of a datum. -/
theorem exists_slot {data : List Value} {v : Value}
    (h : datum data .null v = datum data .omitted v) : ∃ s, s < data.length ∧ v = slot s := by
  cases v with
  | int n =>
    by_cases negative : n < 0
    · rw [datum, datum, if_pos negative, if_pos negative] at h
      cases h
    · by_cases known : n.toNat < data.length
      · refine ⟨n.toNat, known, congrArg Value.int ?_⟩
        omega
      · have none : data[n.toNat]? = none := List.getElem?_eq_none (Nat.le_of_not_lt known)
        rw [datum, datum, if_neg negative, if_neg negative, List.getD_eq_getElem?_getD,
          List.getD_eq_getElem?_getD, none] at h
        cases h
  | _ => cases h

/-- All that the numbering of a program gives as bound are numbers of data. -/
theorem Call.bound_attempt_numberAll {calls : List Call} (offline : Call.allOffline calls = true)
    (options : Options) (session : Option (Session d)) {answer : Answer}
    (answered : .ok answer ∈
      (Call.attempt (Call.numberAll calls 0) (.blank options session)).1) :
    ∀ v ∈ answer.bound, ∃ s, s < (Call.dataAll calls).length ∧ v = slot s := by
  -- The data for the numbers are the same whatever the default is, so no other value is bound.
  have either (default : Value) := Call.attempt_number calls 0
    (fills_datum (Call.dataAll calls) default) offline (Statement.blank options session)
  have equal := (either .null).symm.trans (either .omitted)
  have same := Except.ok.inj (List.map_inj_left.1 equal _ answered)
  have values : answer.bound.map (datum (Call.dataAll calls) .null) =
      answer.bound.map (datum (Call.dataAll calls) .omitted) := by
    cases answer with
    | compiled result => exact congrArg Compiled.params (Answer.compiled.inj same)
    | bindings values => exact Answer.bindings.inj same
    | _ => rfl
  intro v hv
  exact exists_slot (List.map_inj_left.1 values v hv)

/-! ## What the numbering forgets -/

namespace Site

/-- A compared value may be exchanged for any other that is no collection. -/
theorem number_value_of_scalar {v w : Value} (hv : v.isCollection = false)
    (hw : w.isCollection = false) (k : Nat) : value.number k v = value.number k w := by
  simp [value, hv, hw]

/-- Items may be exchanged for as many others, in any form. -/
theorem numberListed_of_length {v w : Value} {xs ys : List Value} (hv : v.items = .ok xs)
    (hw : w.items = .ok ys) (length : xs.length = ys.length) (k : Nat) :
    numberListed k v = numberListed k w := by
  simp [numberListed, hv, hw, length]

/-- A lone argument may be exchanged like a compared value unless it asks for a null test. -/
theorem number_lone {v : Value} (h : asksNull v = false) (k : Nat) :
    lone.number k v = value.number k v := by
  simp [lone, h]

/-- The data of a mutation may be exchanged for any other values of the same keys. -/
theorem number_fields {pairs others : List (Value × Value)}
    (keys : pairs.map Prod.fst = others.map Prod.fst) (k : Nat) :
    fields.number k (.mapping pairs) = fields.number k (.mapping others) := by
  have length : pairs.length = others.length := by
    rw [← List.length_map Prod.fst, keys, List.length_map]
  simp only [fields, keys, length]

end Site

/-! ## Two runs -/

/-- Programs that differ only in bound data answer alike: where one fails the other fails with the
same error, their texts are the same, and what they give as bound are the data with the same
numbers. -/
theorem bound_data_never_text {first second : List Call} (options : Options)
    (session : Option (Session d)) (firstOffline : Call.allOffline first = true)
    (secondOffline : Call.allOffline second = true)
    (same : Call.numberAll first 0 = Call.numberAll second 0) :
    ∃ outlines : List (Except Error Answer),
      (Call.attempt (Call.numberAll first 0) (.blank options session)).1 = outlines ∧
      (Call.attempt first (.blank options session)).1 =
        outlines.map (Except.map (Answer.rebind (datum (Call.dataAll first) .null))) ∧
      (Call.attempt second (.blank options session)).1 =
        outlines.map (Except.map (Answer.rebind (datum (Call.dataAll second) .null))) ∧
      ∀ answer, .ok answer ∈ outlines → ∀ v ∈ answer.bound,
        ∃ s, s < (Call.dataAll first).length ∧ s < (Call.dataAll second).length ∧ v = slot s := by
  have one := Call.attempt_number first 0 (fills_datum (Call.dataAll first) .null) firstOffline
    (Statement.blank options session)
  have two := Call.attempt_number second 0 (fills_datum (Call.dataAll second) .null) secondOffline
    (Statement.blank options session)
  refine ⟨_, rfl, one, ?_, ?_⟩
  · rw [same]
    exact two
  · intro answer answered v hv
    obtain ⟨s, known, rfl⟩ :=
      Call.bound_attempt_numberAll firstOffline options session answered v hv
    rw [same] at answered
    obtain ⟨s', known', number⟩ :=
      Call.bound_attempt_numberAll secondOffline options session answered _ hv
    have equal : s = s' := Int.ofNat.inj (Value.int.inj number)
    exact ⟨s, known, equal ▸ known', rfl⟩

/-- A program with data of every kind: a compared value, a lone collection, the items of a
membership test in a callback, and the data of an INSERT. -/
def searchProgram (name members : Value) (roles : Value) (note : Value) : List Call :=
  let text (s : String) : Arg := .value (.text s)
  [.readFrom (text "users") (.value .null),
    .require .rows (text "name") (text "=") (.value name) (text "AND"),
    .require .rows (text "id") (.value members) (.value .omitted) (text "AND"),
    .require .rows (.callback [.requireMember "NOT IN" (text "role") (.value roles) (text "AND")])
      (.value .omitted) (.value .omitted) (text "OR"),
    .require .rows (text "id") (.value (.series .list [])) (.value .omitted) (text "AND"),
    .compile,
    .compileInsert (.value (.mapping [(.text "note", note)]))]

/-- The texts of compiled SQL among answers. -/
def compiledTexts (answers : List (Except Error Answer)) : List String :=
  answers.filterMap fun answer =>
    match answer with
    | .ok (.compiled result) => some result.sql
    | _ => none

/-- Hostile data leave the texts as they are with harmless ones. -/
theorem bound_data_never_text_search :
    ∃ outlines : List (Except Error Answer),
      (Call.attempt (d := Recording.driver)
          (searchProgram (.text "x' OR ''='") (.series .tuple [.text "?", .null])
            (.text "ab") (.text "IS NULL")) (.blank {} none)).1 =
        outlines.map (Except.map (Answer.rebind (datum
          [.text "x' OR ''='", .text "?", .null, .text "a", .text "b", .text "IS NULL"] .null))) ∧
      compiledTexts outlines =
        ["SELECT * FROM users WHERE name = ? AND id IN (?, ?) OR (role NOT IN (?, ?))",
          "INSERT INTO users (note) VALUES (?)"] := by
  obtain ⟨outlines, run, -, hostile, -⟩ := @bound_data_never_text Recording.driver
    (searchProgram (.text "x") (.range 1 3 1) (.series .list [.int 1, .int 2]) (.int 7))
    (searchProgram (.text "x' OR ''='") (.series .tuple [.text "?", .null]) (.text "ab")
      (.text "IS NULL"))
    {} none rfl rfl rfl
  refine ⟨outlines, hostile, ?_⟩
  rw [← run]
  decide +kernel

end SqlBuilder
