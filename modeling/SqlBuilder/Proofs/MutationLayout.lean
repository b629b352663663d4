import SqlBuilder.Proofs.Alignment

/-!
# The layouts of mutations

INSERT, UPDATE and DELETE have layouts as well: the values of the data stand in their holes in the
order of the data, followed by those of WHERE. Besides the texts of the statement, the keys of the
data are written as they are.
-/

set_option autoImplicit false

namespace SqlBuilder

open Layout (ofText listed after Aligned Spaced Closing aligned_ofText spaced_ofText closing_ofText)
open Sql (Compiled Neutral neutralTexts)

variable {T : TextClass}

/-- The keys of a mapping of data are in a class. -/
def TextClass.KeysHold (T : TextClass) (data : Value) : Prop :=
  ∀ pairs, data.pairs? = some pairs → ∀ key ∈ pairs.map Prod.fst, T.Holds key.display

/-! ## Assignments -/

namespace Layout

/-- The layout of one assignment. -/
def assignment (column v : Value) : Layout :=
  ofText column.display ++ (ofText " =" ++ (ofText " " ++ [.hole v]))

/-- The layout of assignments. -/
def assigned : List (Value × Value) → Layout
  | [] => []
  | [(column, v)] => assignment column v
  | (column, v) :: rest => assignment column v ++ (ofText ", " ++ assigned rest)

/-- The text of one assignment. -/
theorem text_assignment (column v : Value) :
    (assignment column v).text = column.display ++ " = ?" := by
  simp only [assignment, text_append, text_ofText, text_hole]
  rfl

/-- The text of assignments. -/
theorem text_assigned (pairs : List (Value × Value)) :
    (assigned pairs).text = State.assignments (pairs.map Prod.fst) := by
  induction pairs with
  | nil => rfl
  | cons pair rest ih =>
    cases rest with
    | nil =>
      rw [assigned, text_assignment]
      simp [State.assignments, commaSeparated]
    | cons next more =>
      rw [assigned, text_append, text_append, text_assignment, text_ofText, ih]
      · simp only [State.assignments, commaSeparated, List.map_cons, String.intercalate_cons_cons]
        exact String.append_assoc.symm
      · exact List.cons_ne_nil _ _

/-- The values of assignments. -/
theorem values_assigned (pairs : List (Value × Value)) :
    (assigned pairs).values = pairs.map Prod.snd := by
  induction pairs with
  | nil => rfl
  | cons pair rest ih =>
    cases rest with
    | nil => simp [assigned, assignment]
    | cons next more =>
      rw [assigned, values_append, values_append, ih]
      · simp [assignment]
      · exact List.cons_ne_nil _ _

/-- Assignments are spaced. -/
theorem spaced_assigned (pairs : List (Value × Value)) : Spaced (assigned pairs) := by
  have one (column v : Value) : Spaced (assignment column v) :=
    ((spaced_hole v).after_text " =").after_text _
  induction pairs with
  | nil => exact spaced_nil
  | cons pair rest ih =>
    cases rest with
    | nil => exact one _ _
    | cons next more =>
      exact (one _ _).append (ih.after_text ", ") (closing_ofText rfl (.inr (.inl rfl)) _)

/-- Assignments to neutral columns are aligned. -/
theorem aligned_assigned {pairs : List (Value × Value)}
    (h : ∀ key ∈ pairs.map Prod.fst, Neutral key.display) : Aligned (assigned pairs) := by
  have one {column : Value} (hc : Neutral column.display) (v : Value) :
      Aligned (assignment column v) :=
    (aligned_ofText hc).append ((aligned_ofText (by decide)).append
      ((aligned_ofText (by decide)).append (aligned_hole v)))
  induction pairs with
  | nil => exact aligned_nil
  | cons pair rest ih =>
    have first := one (h pair.1 List.mem_cons_self) pair.2
    cases rest with
    | nil => exact first
    | cons next more =>
      have later := ih fun key hk => h key (List.mem_cons_of_mem _ hk)
      have comma : Aligned (ofText ", ") := aligned_ofText (by decide)
      exact first.append (comma.append later)

end Layout

/-! ## Mutations -/

/-- The layout of an INSERT. -/
def State.insertLayout (table columns : String) (vs : List Value) : Layout :=
  ofText "INSERT INTO " ++ (ofText table ++ (ofText " (" ++ (ofText columns ++
    (ofText ") VALUES " ++ (ofText "(" ++ (listed vs ++ ofText ")"))))))

/-- The layout of an UPDATE. -/
def State.updateLayout (table : String) (pairs : List (Value × Value)) (rows : Layout) : Layout :=
  ofText "UPDATE " ++ (ofText table ++ (ofText " SET " ++
    (Layout.assigned pairs ++ after " WHERE " rows)))

/-- The layout of a DELETE. -/
def State.deleteLayout (table : String) (rows : Layout) : Layout :=
  ofText "DELETE FROM " ++ (ofText table ++ after " WHERE " rows)

/-- The layouts of the mutations of a state, with the texts and the keys in a class. -/
inductive LaidMutation (T : TextClass) (s : State) (data : Value) : Mutation → Layout → Prop
  /-- An INSERT. -/
  | insert {pairs : List (Value × Value)} {table columns : String} (keys : data.pairs? = some pairs)
    (ht : T.Holds table) (hc : T.Holds columns) :
    LaidMutation T s data .insert (State.insertLayout table columns (pairs.map Prod.snd))
  /-- An UPDATE. -/
  | update {pairs : List (Value × Value)} {table : String} {rows : Layout}
    (keys : data.pairs? = some pairs) (ht : T.Holds table)
    (hk : ∀ key ∈ pairs.map Prod.fst, T.Holds key.display)
    (hrows : Laid T (.clause s.rowConditions) rows) :
    LaidMutation T s data .update (State.updateLayout table pairs rows)
  /-- A DELETE. -/
  | delete {table : String} {rows : Layout} (ht : T.Holds table)
    (hrows : Laid T (.clause s.rowConditions) rows) :
    LaidMutation T s data .delete (State.deleteLayout table rows)

namespace State

variable {s : State} {data : Value} {compiled : Compiled}

/-- WHERE is written with its values as a layout says. -/
structure WritesRows (s : State) (rows : Layout) : Prop where
  /-- The text. -/
  text : s.whereText = (after " WHERE " rows).text
  /-- The values. -/
  values : s.clauseParams .rows = (after " WHERE " rows).values

/-- A mutation writes to the source, which is no derived table. -/
theorem of_requireTable {mutation : Mutation} {source : Source}
    (h : s.requireTable mutation = .ok source) :
    s.source = some source ∧ source.derived = false := by
  obtain ⟨known, required, h⟩ := of_bind_eq_ok h
  have reads : s.source = some known := by
    unfold requireSource at required
    split at required
    · rename_i found
      rw [found, Except.ok.inj required]
    · cases required
  split at h
  · cases h
  · rename_i table
    rw [← Except.ok.inj h]
    exact ⟨reads, Bool.eq_false_iff.2 table⟩

/-- The data that a mutation takes is the data it is given. -/
theorem of_requireData {mutation : Mutation} {given : Value}
    (h : requireData mutation data = .ok given) : given = data := by
  unfold requireData at h
  split at h
  · exact (Except.ok.inj h).symm
  · cases h

/-- What an INSERT compiles to: its columns are the keys of the data, which are texts. -/
theorem of_compileInsert (h : s.compileInsert data = .ok compiled) :
    ∃ source pairs columns, s.requireTable .insert = .ok source ∧ data.pairs? = some pairs ∧
      pairs.map Prod.fst = columns.map .text ∧
      compiled = (insertLayout source.sql.display (commaSeparated columns)
        (pairs.map Prod.snd)).compiled := by
  obtain ⟨source, table, h⟩ := of_bind_eq_ok h
  obtain ⟨given, required, h⟩ := of_bind_eq_ok h
  rw [of_requireData required] at h
  split at h
  · cases h
  · rename_i pairs found
    obtain ⟨columns, joined, h⟩ := of_bind_eq_ok h
    obtain ⟨texts, keys, rfl⟩ := of_joinTexts joined
    refine ⟨source, pairs, texts, table, found, keys, ?_⟩
    rw [← Except.ok.inj h]
    simp [Layout.compiled, insertLayout, Layout.text_listed, Layout.values_listed,
      String.append_assoc]
    rw [← String.append_assoc]
    rfl

/-- What an UPDATE compiles to. -/
theorem of_compileUpdate (h : s.compileUpdate data = .ok compiled) :
    ∃ source pairs, s.requireTable .update = .ok source ∧ data.pairs? = some pairs ∧
      ∀ rows, s.WritesRows rows →
        compiled = (updateLayout source.sql.display pairs rows).compiled := by
  obtain ⟨source, table, h⟩ := of_bind_eq_ok h
  obtain ⟨given, required, h⟩ := of_bind_eq_ok h
  rw [of_requireData required] at h
  split at h
  · rename_i pairs found
    obtain ⟨-, -, h⟩ := of_bind_eq_ok h
    refine ⟨source, pairs, table, found, fun rows written => ?_⟩
    rw [← Except.ok.inj h]
    simp [Layout.compiled, updateLayout, Layout.text_assigned, Layout.values_assigned,
      written.text, written.values, String.append_assoc]
  · obtain ⟨-, -, h⟩ := of_bind_eq_ok h
    obtain ⟨-, -, h⟩ := of_bind_eq_ok h
    cases h

/-- What a DELETE compiles to. -/
theorem of_compileDelete (h : s.compileDelete = .ok compiled) :
    ∃ source, s.requireTable .delete = .ok source ∧
      ∀ rows, s.WritesRows rows →
        compiled = (deleteLayout source.sql.display rows).compiled := by
  obtain ⟨source, table, h⟩ := of_bind_eq_ok h
  refine ⟨source, table, fun rows written => ?_⟩
  rw [← Except.ok.inj h]
  simp [Layout.compiled, deleteLayout, written.text, written.values, String.append_assoc]

end State

/-- What mutations read of a state has layouts: the source and the conditions on rows. -/
structure State.WriteSound (T : TextClass) (s : State) : Prop where
  /-- The source. -/
  source : ∀ from_, s.source = some from_ → ∃ l, Laid T (.source from_) l
  /-- The conditions on rows. -/
  rows : ∃ l, Laid T (.clause s.rowConditions) l

/-- A state that is sound is sound for mutations. -/
theorem State.Sound.writeSound {s : State} (sound : s.Sound T) : s.WriteSound T :=
  ⟨sound.source, sound.clause .rows⟩

namespace State.WriteSound

variable {s : State} (sound : s.WriteSound T)

include sound

/-- The table of a mutation is in the class. -/
theorem holds_of_requireTable {mutation : Mutation} {source : Source}
    (h : s.requireTable mutation = .ok source) : T.Holds source.sql.display := by
  obtain ⟨reads, plain⟩ := of_requireTable h
  obtain ⟨l, laid⟩ := sound.source source reads
  cases laid with
  | table binds holds => exact holds
  | derived => cases plain

/-- WHERE has a layout. -/
theorem laidRows : ∃ rows, Laid T (.clause s.rowConditions) rows ∧ s.WritesRows rows := by
  obtain ⟨rows, laid⟩ := sound.rows
  obtain ⟨text, values, -⟩ := laid.written
  refine ⟨rows, laid, ?_, ?_⟩
  · rw [Layout.text_after, ← text]
    rfl
  · rw [Layout.values_after, ← values]
    rfl

/-- A compiled INSERT has a layout. -/
theorem laidInsert {data : Value} (keys : T.KeysHold data) {compiled : Compiled}
    (h : s.compileInsert data = .ok compiled) :
    ∃ l, LaidMutation T s data .insert l ∧ compiled = l.compiled := by
  obtain ⟨source, pairs, columns, table, found, texts, rfl⟩ := of_compileInsert h
  have holds : T.Holds (commaSeparated columns) := by
    apply TextClass.holds_commaSeparated
    intro t ht
    have key : Value.text t ∈ pairs.map Prod.fst := texts ▸ List.mem_map_of_mem ht
    exact keys pairs found (.text t) key
  exact ⟨_, .insert found (sound.holds_of_requireTable table) holds, rfl⟩

/-- A compiled UPDATE has a layout. -/
theorem laidUpdate {data : Value} (keys : T.KeysHold data) {compiled : Compiled}
    (h : s.compileUpdate data = .ok compiled) :
    ∃ l, LaidMutation T s data .update l ∧ compiled = l.compiled := by
  obtain ⟨source, pairs, table, found, written⟩ := of_compileUpdate h
  obtain ⟨rows, laid, compiles⟩ := sound.laidRows
  exact ⟨_, .update found (sound.holds_of_requireTable table) (keys pairs found) laid,
    written rows compiles⟩

/-- A compiled DELETE has a layout. -/
theorem laidDelete {data : Value} {compiled : Compiled} (h : s.compileDelete = .ok compiled) :
    ∃ l, LaidMutation T s data .delete l ∧ compiled = l.compiled := by
  obtain ⟨source, table, written⟩ := of_compileDelete h
  obtain ⟨rows, laid, compiles⟩ := sound.laidRows
  exact ⟨_, .delete (sound.holds_of_requireTable table) laid, written rows compiles⟩

end State.WriteSound

/-- The holes of a mutation stand apart from the text around them. -/
theorem LaidMutation.spaced {s : State} {data : Value} {mutation : Mutation} {l : Layout}
    (h : LaidMutation T s data mutation l) : Spaced l := by
  cases h with
  | insert keys ht hc =>
    exact (((((Layout.spaced_listed _).after_text _).after_text _).after_text _).after_text
      _).after_text _
  | @update pairs table rows keys ht hk hrows =>
    have where_ := hrows.spaced.after " WHERE "
    have closing : Closing (after " WHERE " rows) := Layout.closing_after rfl rows
    have assigned := (Layout.spaced_assigned pairs).append where_ closing
    exact ((assigned.after_text _).after_text _).after_text _
  | delete ht hrows =>
    exact ((hrows.spaced.after " WHERE ").after_text _).after_text _

/-- The scan of a mutation with neutral texts and keys finds exactly its holes. -/
theorem LaidMutation.aligned {s : State} {data : Value} {mutation : Mutation} {l : Layout}
    (h : LaidMutation neutralTexts s data mutation l) : Aligned l := by
  cases h with
  | @insert pairs table columns keys ht hc =>
    have values : Aligned (ofText ") VALUES ") := aligned_ofText (by decide)
    have opening : Aligned (ofText " (") := aligned_ofText (by decide)
    have bound := (Layout.aligned_listed (pairs.map Prod.snd)).bracketed
    have named := opening.append ((aligned_ofText hc).append (values.append bound))
    exact (aligned_ofText (by decide)).append ((aligned_ofText ht).append named)
  | update keys ht hk hrows =>
    have where_ := hrows.aligned.after (show Neutral " WHERE " by decide)
    have set_ : Aligned (ofText " SET ") := aligned_ofText (by decide)
    exact (aligned_ofText (by decide)).append ((aligned_ofText ht).append
      (set_.append ((Layout.aligned_assigned hk).append where_)))
  | delete ht hrows =>
    have where_ := hrows.aligned.after (show Neutral " WHERE " by decide)
    exact (aligned_ofText (by decide)).append ((aligned_ofText ht).append where_)

end SqlBuilder
