import SqlBuilder.Driver.Recording
import SqlBuilder.Proofs.MutationLayout
import SqlBuilder.Proofs.Outlines

/-!
# Nesting is always bracketed

A program has an outline: that of the empty statement, grown by each of its calls, where a callback
has the outline of its own calls on a fresh statement. If all texts that a program interpolates are
balanced, the outline draws the state that the program reaches. So everything that the program
compiles is balanced, and each derived table, subquery and group in it is a piece between brackets
that match each other, down to any depth.
-/

set_option autoImplicit false

namespace SqlBuilder

open Sql (Compiled)
open Nesting (plain shows_plain)

variable {d : Driver}

/-! ## The outline of a program -/

/-- The callback of an argument. -/
def Operand.callback? {β : Type} : Operand β → Option β
  | .value _ => none
  | .callback f => some f

/-- The callback of a request. -/
def Request.callback? {β : Type} : Request β → Option β
  | .group f | .subquery _ _ f => some f
  | .nullTest _ _ | .test _ _ _ => none

mutual

/-- An argument of a call on a statement, with what its callback builds. -/
def Arg.built : Arg → Statement d → Operand Built
  | .value v, _ => .value v
  | .callback calls, st =>
    .callback ⟨(Call.runAll calls st.fresh).2.state, Call.outlineAll calls st.fresh {}⟩

/-- What the callback of a call on a statement builds. -/
def Call.built : Call → Statement d → Option Built
  | .readFrom source _, st => (source.built st).callback?
  | .union branch _, st => (branch.built st).callback?
  | .require _ column operator value _, st =>
    (Request.of (column.built st) (operator.built st) (value.built st)).callback?
  | .requireMember operator column values _, st =>
    match (values.built st).items with
    | .ok items => (Request.of (column.built st) (.value (.text operator)) items).callback?
    | .error _ => none
  | _, _ => none

/-- The outline after calls one after another, up to the first that fails. -/
def Call.outlineAll : List Call → Statement d → Outline → Outline
  | [], _, o => o
  | call :: rest, st, o =>
    match call.run st with
    | (.ok _, st') =>
      Call.outlineAll rest st' (o.grow st.options.emptyGroup (call.built st) st.state st'.state)
    | (.error _, st') => o.grow st.options.emptyGroup (call.built st) st.state st'.state

end

/-- The outline after the calls of a program. -/
def Call.outline : List Call → Statement d → Outline → Outline
  | [], _, o => o
  | call :: rest, st, o =>
    Call.outline rest (call.run st).2
      (o.grow st.options.emptyGroup (call.built st) st.state (call.run st).2.state)

/-! ## Callbacks -/

/-- What calls build on a fresh statement. -/
def Built.of (calls : List Call) (st : Statement d) : Built :=
  ⟨(Call.runAll calls st.fresh).2.state, Call.outlineAll calls st.fresh {}⟩

/-- Classifying a request looks at the values in it only, and not at its callbacks. -/
theorem Request.of_map_value {α β : Type} (f : α → β) (column : Operand α) (operator : Value)
    (values : Operand α) :
    Request.of (column.map f) (.value operator) (values.map f) =
      (Request.of column (.value operator) values).map f :=
  Request.of_map f column (.value operator) values

/-- An argument, what its callback builds and the condition on its texts come from one argument over
lists of calls with a property. -/
theorem Arg.over (argument : Arg) (st : Statement d) {P : List Call → Prop}
    (h : ∀ calls, argument = .callback calls → P calls) :
    ∃ known : Operand { calls : List Call // P calls },
      argument.denote = known.map (fun calls st => Call.runAll (d := d) calls.1 st) ∧
        argument.built st = known.map (fun calls => .of calls.1 st) ∧
        ∀ T, argument.promise T st = known.map (fun calls => Call.AllClean T calls.1 st.fresh) := by
  cases argument with
  | value v => exact ⟨.value v, rfl, rfl, fun _ => rfl⟩
  | callback calls => exact ⟨.callback ⟨calls, h calls rfl⟩, rfl, rfl, fun _ => rfl⟩

section

variable {P : List Call → Prop} (r : Request { calls : List Call // P calls }) (st : Statement d)

/-- What the callback of a request makes of a fresh statement is what is recorded of it in an
outline. -/
theorem Statement.requestYields_built :
    st.RequestYields (Built.Gives (r.map fun calls => .of calls.1 st).callback?)
      (r.map fun calls st => Call.runAll (d := d) calls.1 st) := by
  cases r with
  | group calls => exact ⟨_, rfl, rfl⟩
  | nullTest column operator => trivial
  | subquery column operator calls => exact ⟨_, rfl, rfl⟩
  | test column operator value => trivial

/-- What the callback of a request builds has a property that clean callbacks guarantee. -/
theorem Request.built_of_holds {T : TextClass} {Q : Built → Prop}
    (h : ∀ calls, P calls → Call.AllClean T calls st.fresh → Q (.of calls st))
    (holds : T.RequestHolds (r.map fun calls => Call.AllClean T calls.1 st.fresh)) :
    ∀ b, (r.map fun calls => Built.of calls.1 st).callback? = some b → Q b := by
  rintro b given
  cases r with
  | group calls => exact Option.some.inj given ▸ h calls.1 calls.2 holds
  | nullTest column operator => cases given
  | subquery column operator calls => exact Option.some.inj given ▸ h calls.1 calls.2 holds.2.2
  | test column operator value => cases given

end

/-- What the callback of a call makes of a fresh statement is what the call builds. -/
theorem Call.yields_built (call : Call) (st : Statement d) :
    call.Yields (Built.Gives (call.built st)) st := by
  have argument (a : Arg) : st.Yields (Built.Gives (a.built st).callback?) a.denote := by
    cases a with
    | value v => trivial
    | callback calls => exact ⟨_, rfl, rfl⟩
  cases call with
  | readFrom source aliasName => exact argument source
  | union branch kind => exact argument branch
  | require clause column operator value connector =>
    obtain ⟨column, hc, bc, -⟩ := column.over st fun _ _ => trivial
    obtain ⟨operator, ho, bo, -⟩ := operator.over st fun _ _ => trivial
    obtain ⟨value, hv, bv, -⟩ := value.over st fun _ _ => trivial
    rw [Call.Yields, Call.built, hc, ho, hv, bc, bo, bv, Request.of_map, Request.of_map]
    exact st.requestYields_built _
  | requireMember operator column values connector =>
    obtain ⟨column, hc, bc, -⟩ := column.over st fun _ _ => trivial
    obtain ⟨values, hv, bv, -⟩ := values.over st fun _ _ => trivial
    intro items found
    rw [hv, Operand.items_map] at found
    obtain ⟨listed, known, rfl⟩ := of_map_eq_ok found
    rw [Call.built, bv, Operand.items_map, known, hc, bc]
    dsimp only [Except.map]
    rw [Request.of_map_value, Request.of_map_value]
    exact st.requestYields_built _
  | _ => trivial

/-! ## Statements that are ready -/

namespace Statement

variable {st : Statement d}

/-- All texts of a statement are balanced, and the predicate for empty groups is not empty. -/
structure Ready (st : Statement d) : Prop where
  /-- The texts. -/
  sound : st.Sound balancedTexts
  /-- The predicate for empty groups. -/
  filled : st.options.emptyGroup ≠ ""

/-- A fresh statement is ready when the one it comes from is: it has the same options. -/
theorem Ready.fresh (ready : st.Ready) : st.fresh.Ready :=
  ⟨⟨ready.sound.emptyGroup, State.sound_empty⟩, ready.filled⟩

/-- A call with balanced texts leaves a statement ready, failing or not. -/
theorem Ready.run (ready : st.Ready) {call : Call} (clean : call.Clean balancedTexts st) :
    (call.run st).2.Ready :=
  ⟨call.run_sound st ready.sound clean, (call.options_run st).symm ▸ ready.filled⟩

/-- The calls of a program keep a statement ready if their texts are balanced. -/
theorem Ready.attempt (ready : st.Ready) {program : List Call}
    (clean : Call.ProgramClean balancedTexts program st) : (Call.attempt program st).2.Ready := by
  induction program generalizing st with
  | nil => exact ready
  | cons call rest ih => exact ih (ready.run clean.1) clean.2

end Statement

/-! ## The outlines of programs -/

/-- A call keeps an outline drawn if what its callback builds is. -/
theorem Call.draws_run {call : Call} {st : Statement d} (ready : st.Ready)
    (clean : call.Clean balancedTexts st) (drawn : ∀ b, call.built st = some b → b.Drawn)
    {o : Outline} (draws : o.Draws st.state) :
    (o.grow st.options.emptyGroup (call.built st) st.state (call.run st).2.state).Draws
      (call.run st).2.state :=
  draws.grow (Call.moves (call.yields_built st)) drawn ready.sound.emptyGroup ready.filled
    (call.run_sound st ready.sound clean).state

mutual

/-- What a callback builds is drawn if its texts are balanced. -/
theorem Arg.drawn (argument : Arg) (st : Statement d) (ready : st.Ready) :
    ∀ calls, argument = .callback calls → Call.AllClean balancedTexts calls st.fresh →
      (Built.of calls st).Drawn := by
  cases argument with
  | value v => exact nofun
  | callback calls =>
    rintro _ ⟨⟩ clean
    have sound := Call.runAll_sound calls st.fresh ready.fresh.sound clean
    have draws := Call.draws_runAll calls st.fresh ready.fresh clean Outline.draws_empty
    exact ⟨draws, sound.state.texts⟩

/-- What the callback of a call builds is drawn if the texts of the call are balanced. -/
theorem Call.drawn_built (call : Call) (st : Statement d) (ready : st.Ready)
    (clean : call.Clean balancedTexts st) : ∀ b, call.built st = some b → b.Drawn := by
  cases call with
  | readFrom source aliasName =>
    have drawn := source.drawn st ready
    intro b given
    cases source with
    | value v => cases given
    | callback calls => exact Option.some.inj given ▸ drawn calls rfl clean.1
  | union branch kind =>
    have drawn := branch.drawn st ready
    intro b given
    cases branch with
    | value v => cases given
    | callback calls => exact Option.some.inj given ▸ drawn calls rfl clean
  | require clause column operator value connector =>
    obtain ⟨column, -, bc, pc⟩ := column.over st (column.drawn st ready)
    obtain ⟨operator, -, bo, po⟩ := operator.over st (operator.drawn st ready)
    obtain ⟨value, -, bv, pv⟩ := value.over st (value.drawn st ready)
    rw [Call.Clean, pc, po, pv, Request.of_map] at clean
    rw [Call.built, bc, bo, bv, Request.of_map]
    exact Request.built_of_holds _ st (fun _ known => known) clean
  | requireMember operator column values connector =>
    obtain ⟨column, -, bc, pc⟩ := column.over st (column.drawn st ready)
    obtain ⟨values, -, bv, pv⟩ := values.over st (values.drawn st ready)
    rw [Call.Clean, pc, pv, Operand.items_map] at clean
    rw [Call.built, bc, bv, Operand.items_map]
    cases items : values.items with
    | error e => exact nofun
    | ok listed =>
      rw [items] at clean
      have holds := clean _ rfl
      rw [Request.of_map_value] at holds
      dsimp only [Except.map]
      rw [Request.of_map_value]
      exact Request.built_of_holds _ st (fun _ known => known) holds
  | _ => exact nofun

/-- Calls one after another keep an outline drawn if their texts are balanced. -/
theorem Call.draws_runAll (calls : List Call) (st : Statement d) (ready : st.Ready)
    (clean : Call.AllClean balancedTexts calls st) {o : Outline} (draws : o.Draws st.state) :
    (Call.outlineAll calls st o).Draws (Call.runAll calls st).2.state := by
  cases calls with
  | nil => exact draws
  | cons call rest =>
    -- The calls of a callback are a part of its call, so what it builds is drawn by induction.
    have first := Call.draws_run ready clean.1 (call.drawn_built st ready clean.1) draws
    have ready' := ready.run clean.1
    have later := clean.2
    rw [Call.runAll, Call.outlineAll]
    cases made : call.run st with
    | mk outcome st' =>
      rw [made] at first ready' later
      cases outcome with
      | error e => exact first
      | ok answer => exact Call.draws_runAll rest st' ready' later first

end

/-- The calls of a program keep an outline drawn if their texts are balanced. -/
theorem Call.draws_attempt (program : List Call) (st : Statement d) (ready : st.Ready)
    (clean : Call.ProgramClean balancedTexts program st) {o : Outline} (draws : o.Draws st.state) :
    (Call.outline program st o).Draws (Call.attempt program st).2.state := by
  induction program generalizing st o with
  | nil => exact draws
  | cons call rest ih =>
    have first := Call.draws_run ready clean.1 (call.drawn_built st ready clean.1) draws
    exact ih _ (ready.run clean.1) clean.2 first

/-! ## Mutations -/

section

variable {s : State} {data : Value} {compiled : Compiled} (sound : s.Sound balancedTexts)

include sound

/-- The text of an INSERT is balanced when the table and the keys of the data are. -/
theorem State.Sound.balanced_insert (keys : balancedTexts.KeysHold data)
    (compiles : s.compileInsert data = .ok compiled) : Balanced compiled.sql := by
  obtain ⟨source, pairs, columns, table, found, texts, rfl⟩ := of_compileInsert compiles
  have listed : Balanced (commaSeparated columns) := by
    refine TextClass.holds_commaSeparated (T := balancedTexts) fun t ht => ?_
    exact keys pairs found (.text t) (texts ▸ List.mem_map_of_mem ht)
  have sql : (insertLayout source.sql.display (commaSeparated columns)
      (pairs.map Prod.snd)).text =
      "INSERT INTO " ++ source.sql.display ++ " " ++ ("(" ++ commaSeparated columns ++ ")") ++
        " VALUES " ++ ("(" ++ Sql.placeholders (pairs.map Prod.snd).length ++ ")") := by
    have opening : " (" = " " ++ "(" := rfl
    have between : ") VALUES " = ")" ++ " VALUES " := rfl
    simp only [insertLayout, Layout.text_append, Layout.text_ofText, Layout.text_listed, opening,
      between, String.append_assoc]
  have table : Balanced source.sql.display := sound.writeSound.holds_of_requireTable table
  have opening : Balanced ("INSERT INTO " ++ source.sql.display ++ " ") :=
    ((by decide : Balanced "INSERT INTO ").append table).append (by decide)
  show Balanced (insertLayout _ _ _).text
  rw [sql]
  exact ((opening.append listed.bracketed).append (by decide)).append
    (balanced_placeholders _).bracketed

/-- An UPDATE is a balanced text and then WHERE. -/
theorem State.Sound.sql_update (keys : balancedTexts.KeysHold data)
    (compiles : s.compileUpdate data = .ok compiled) :
    ∃ head, Balanced head ∧ compiled.sql = head ++ s.whereText := by
  obtain ⟨source, pairs, table, found, written⟩ := of_compileUpdate compiles
  obtain ⟨rows, -, writes⟩ := sound.writeSound.laidRows
  have assigned : Balanced (assignments (pairs.map Prod.fst)) := by
    refine TextClass.holds_commaSeparated (T := balancedTexts) fun t ht => ?_
    obtain ⟨column, member, rfl⟩ := List.mem_map.1 ht
    exact Balanced.append (keys pairs found column member) (by decide)
  have table : Balanced source.sql.display := sound.writeSound.holds_of_requireTable table
  have opening := (by decide : Balanced "UPDATE ").append table
  refine ⟨_, (opening.append (by decide : Balanced " SET ")).append assigned, ?_⟩
  rw [written rows writes, writes.text]
  simp only [Layout.compiled, updateLayout, Layout.text_append, Layout.text_ofText,
    Layout.text_assigned, String.append_assoc]

/-- A DELETE is a balanced text and then WHERE. -/
theorem State.Sound.sql_delete (compiles : s.compileDelete = .ok compiled) :
    ∃ head, Balanced head ∧ compiled.sql = head ++ s.whereText := by
  obtain ⟨source, table, written⟩ := of_compileDelete compiles
  obtain ⟨rows, -, writes⟩ := sound.writeSound.laidRows
  have table : Balanced source.sql.display := sound.writeSound.holds_of_requireTable table
  refine ⟨_, (by decide : Balanced "DELETE FROM ").append table, ?_⟩
  rw [written rows writes, writes.text]
  simp only [Layout.compiled, deleteLayout, Layout.text_append, Layout.text_ofText,
    String.append_assoc]

end

/-! ## Programs -/

/-- An option that has to be filled is not the empty text. -/
theorem Options.ne_empty_of_checkFilled {v : Value} {s : String}
    (h : checkFilled v = .ok s) : s ≠ "" := by
  unfold checkFilled at h
  split at h
  · split at h
    · cases h
    · rename_i filled
      obtain rfl := Except.ok.inj h
      exact fun none => filled (String.isEmpty_iff.2 none)
  · cases h

/-- An accepted predicate for empty groups is not empty. -/
theorem Options.emptyGroup_ne_empty {given : Value} {options : Options}
    (loaded : Options.load given = .ok options) : options.emptyGroup ≠ "" := by
  unfold Options.load at loaded
  split at loaded
  · cases loaded
  · have made := of_mapError_eq_ok loaded
    obtain ⟨_, _, named, -, rfl⟩ := Checked.ap_eq_ok_iff.1 (of_refuseFor_eq_ok made)
    obtain ⟨_, emptyGroup, first, checked, rfl⟩ := Checked.ap_eq_ok_iff.1 named
    obtain ⟨_, _, start, -, rfl⟩ := Checked.ap_eq_ok_iff.1 first
    obtain rfl := Except.ok.inj start
    rcases checkField_eq_ok checked with ⟨v, -, filled⟩ | ⟨-, default⟩
    · exact ne_empty_of_checkFilled filled
    · exact Option.some.inj default ▸ (by decide : "1=1" ≠ "")

/-- A nesting that has WHERE after a balanced text. -/
def Outline.rowsAfter (o : Outline) (head : String) : Nesting :=
  plain head ++ (o.clause .rows).after " WHERE "

/-- The conditions of WHERE come last in an UPDATE or a DELETE, and keep their brackets there. -/
theorem Outline.Draws.rowsAfter {o : Outline} {s : State} (draws : o.Draws s) {head sql : String}
    (balanced : Balanced head) (same : sql = head ++ s.whereText) :
    (o.rowsAfter head).Bracketed sql (s.ClauseBrackets .rows) := by
  have where_ := (draws.clause .rows).after (by decide : Balanced " WHERE ")
  have whole := ((shows_plain balanced).append where_).mono fun part => .inr
  exact same ▸ whole.bracketed

/-- Nesting is always bracketed. If the texts that a program interpolates are balanced, so is all
that it compiles: the SELECT, each clause on its own, the INSERT, the UPDATE and the DELETE. In each
of them every derived table, subquery and group, those inside others included, is a piece that is
not empty, between brackets that match each other, and everything in the piece stands deeper than
its brackets. The same holds of what the callback of a further call builds. -/
theorem nesting_is_bracketed {given : Value} {options : Options}
    (loaded : Options.load given = .ok options) (emptyGroup : Balanced options.emptyGroup)
    (session : Option (Session d)) (program : List Call)
    (clean : Call.ProgramClean balancedTexts program (.blank options session)) :
    let reached := (Call.attempt program (.blank options session)).2
    let s := reached.state
    let o := Call.outline program (.blank options session) {}
    o.Encloses s ∧
      (∀ call : Call, call.Clean balancedTexts reached → ∀ b, call.built reached = some b →
        b.outline.Encloses b.state) ∧
      (∀ data compiled, balancedTexts.KeysHold data → s.compileInsert data = .ok compiled →
        Balanced compiled.sql) ∧
      (∀ data compiled, balancedTexts.KeysHold data → s.compileUpdate data = .ok compiled →
        ∃ head, (o.rowsAfter head).Bracketed compiled.sql (s.ClauseBrackets .rows)) ∧
      ∀ compiled, s.compileDelete = .ok compiled →
        ∃ head, (o.rowsAfter head).Bracketed compiled.sql (s.ClauseBrackets .rows) := by
  intro reached s o
  have blank : (Statement.blank options session).Ready :=
    ⟨⟨emptyGroup, State.sound_empty⟩, Options.emptyGroup_ne_empty loaded⟩
  have ready : reached.Ready := blank.attempt clean
  have sound : s.Sound balancedTexts := ready.sound.state
  have draws : o.Draws s := Call.draws_attempt program _ blank clean Outline.draws_empty
  refine ⟨draws.encloses sound.texts, ?_, ?_, ?_, ?_⟩
  · intro call further b built
    have drawn := call.drawn_built reached ready further b built
    exact drawn.draws.encloses drawn.texts
  · exact fun data compiled keys compiles => sound.balanced_insert keys compiles
  · intro data compiled keys compiles
    obtain ⟨head, balanced, same⟩ := sound.sql_update keys compiles
    exact ⟨head, draws.rowsAfter balanced same⟩
  · intro compiled compiles
    obtain ⟨head, balanced, same⟩ := sound.sql_delete compiles
    exact ⟨head, draws.rowsAfter balanced same⟩

/-- A program with a derived table, a group, a subquery inside it and an empty group inside that. -/
def nestedReport : List Call :=
  let text (s : String) : Arg := .value (.text s)
  [.select [text "'(' AS mark"],
    .readFrom (.callback
      [.readFrom (text "orders") (.value .null),
        .require .rows (text "paid") (text "=") (.value (.int 1)) (text "AND")]) (text "o"),
    .require .rows (.callback
      [.require .rows (text "a") (text ">") (.value (.int 2)) (text "AND"),
        .require .rows (text "b") (text "IN") (.callback
          [.readFrom (text "b") (.value .null),
            .require .rows (.callback []) (.value .omitted) (.value .omitted) (text "AND")])
          (text "OR")])
      (.value .omitted) (.value .omitted) (text "AND")]

/-- The texts of the report are balanced, at every depth. -/
theorem clean_nestedReport : Call.ProgramClean (d := Recording.driver) balancedTexts nestedReport
    (.blank {} none) := by
  have field {s : String} (h : Balanced s) : balancedTexts.FieldHolds (.text s) :=
    TextClass.fieldHolds_text h
  refine ⟨fun t ht => ?_, ⟨⟨fun _ => ?_, ⟨field (by decide), field (by decide)⟩, trivial⟩, ?_⟩,
    ⟨⟨field (by decide), field (by decide)⟩, ⟨field (by decide), field (by decide), ?_⟩, trivial⟩,
    trivial⟩
  · have listed : Value.text t ∈ [Value.text "'(' AS mark"] := ht
    simp only [List.mem_cons, Value.text.injEq, List.not_mem_nil, or_false] at listed
    exact listed ▸ (by decide : Balanced "'(' AS mark")
  · exact (by decide : Balanced "orders")
  · exact (by decide : Balanced "o")
  · exact ⟨fun _ => (by decide : Balanced "b"), trivial, trivial⟩

/-- What the program puts in brackets is enclosed; a bracket in a literal does not count. -/
theorem nesting_is_bracketed_nestedReport :
    let st : Statement Recording.driver := .blank {} none
    let s := (Call.attempt nestedReport st).2.state
    let n := (Call.outline nestedReport st {}).select s
    n.text = "SELECT '(' AS mark FROM (SELECT * FROM orders WHERE paid = ?) AS o " ++
        "WHERE (a > ? OR b IN (SELECT * FROM b WHERE (1=1)))" ∧
      n.inners = ["SELECT * FROM orders WHERE paid = ?",
        "a > ? OR b IN (SELECT * FROM b WHERE (1=1))", "SELECT * FROM b WHERE (1=1)", "1=1"] ∧
      s.compile.toOption.map Compiled.sql = some n.text ∧ ∀ p ∈ n.pieces, p.Enclosed n.text := by
  intro st s n
  have compiles : s.compile.toOption.map Compiled.sql = some n.text := by
    decide +kernel
  obtain ⟨compiled, found, text⟩ := Option.map_eq_some_iff.1 compiles
  have loaded : Options.load (.mapping []) = .ok {} := rfl
  obtain ⟨encloses, -⟩ := nesting_is_bracketed (d := Recording.driver) loaded (by decide) none
    nestedReport clean_nestedReport
  refine ⟨by decide +kernel, by decide +kernel, compiles, ?_⟩
  cases made : s.compile with
  | error e =>
    rw [made] at found
    cases found
  | ok compiled =>
    have bracketed := encloses.select compiled made
    exact bracketed.text ▸ bracketed.enclosed

end SqlBuilder
