import SqlBuilder.Proofs.PairedSteps
import SqlBuilder.Proofs.RegularReplies

/-!
# The adapters side by side

The positional driver hands a text over as it is, the driver with named binds rewrites it. On
scripts of replies without failures the two are paired, and programs give the same answers on both,
step by step:

* **binds**: what a program with neutral texts compiles is rewritten to one known name for each
  value (`nameable_of_sound`), so no bind is refused and no execution fails on one side only;
* **rows**: both read the same reply at the same row, one through a cursor that is always there, the
  other through rows that are there if there are columns (`Reads`); a reply without columns has no
  rows, and repeated names are refused on both sides before anything is read;
* **identifiers**: the driver with named binds records one only for a text that begins with INSERT,
  which every compiled insertion does (`inserts_of_compileInsert`). The positional driver records
  one for every execution, so what insertions give is the same, not what was recorded last.
-/

set_option autoImplicit false

namespace SqlBuilder

open Sql (Compiled Neutral neutralTexts toNamedBinds bindNames bindNamesFrom)

namespace Adapters

/-- Sessions at the same place of a script of replies without failures. -/
structure Sessions (s : Session Positional.driver) (s' : Session Named.driver) : Prop where
  /-- The replies to come are the same. -/
  script : s'.connection.script = s.connection.script
  /-- None of them fails. -/
  regular : Connection.Regular s.connection

/-- Both connections give the same reply, and have the same replies left afterwards. -/
theorem Sessions.next {s : Session Positional.driver} {s' : Session Named.driver}
    (h : Sessions s s') : s'.connection.next.1 = s.connection.next.1 ∧
      s'.connection.next.2.script = s.connection.next.2.script := by
  unfold Connection.next
  rw [h.script]
  split
  · exact ⟨rfl, h.script⟩
  · exact ⟨rfl, rfl⟩

/-- Statements that read the same reply at the same row. -/
structure Reads (cursor : Cursor) (p : Positional.Prepared) (p' : Named.Prepared) : Prop where
  /-- The positional driver reads it. -/
  reads : p.cursor = some cursor
  /-- The other driver counts its rows. -/
  reply : p'.reply = some cursor.reply
  /-- The other driver reads it if there are columns. -/
  rows : p'.rows = cursor.reply.columns.map fun _ => cursor
  /-- The columns by position. -/
  columns : p.columns = cursor.reply.columns.getD []
  /-- The columns by name. -/
  columns' : p'.columns = cursor.reply.columns.getD []

/-- Statements that read the same reply, with different column names and without a failure. -/
def Reading (p : Positional.Prepared) (p' : Named.Prepared) : Prop :=
  ∃ cursor, Reads cursor p p' ∧ p.columns.Nodup ∧ cursor.reply.Regular

/-- What is left on both sides when a compiled statement was executed. -/
structure Executed (compiled : Compiled) (p : Positional.Prepared) (p' : Named.Prepared)
    (s : Session Positional.driver) (s' : Session Named.driver) : Prop where
  /-- The statements read the same reply, which does not fail. -/
  reads : ∃ cursor, Reads cursor p p' ∧ cursor.reply.Regular
  /-- The sessions. -/
  sessions : Sessions s s'
  /-- An INSERT records the same identifier. -/
  identifier : Named.Prepared.inserts compiled.sql = true →
    s.connection.lastInsertId = s'.connection.lastInsertId

variable {s : Session Positional.driver} {s' : Session Named.driver} {compiled : Compiled}

/-- Executing a compiled statement whose values can be bound. -/
theorem executed (h : Sessions s s') (nameable : compiled.Nameable) (bindable : compiled.Bindable)
    (logs : Bool) :
    ∃ p p' t t', s.run logs compiled = t.settled p ∧ s'.run logs compiled = t'.settled p' ∧
      Executed compiled p p' t t' := by
  obtain ⟨regular, later⟩ := h.regular.next
  obtain ⟨same, script⟩ := h.next
  obtain ⟨p, t, run, columns, cursor, connection⟩ :=
    Positional.run_of_accepted regular.accepted logs bindable
  obtain ⟨p', t', run', columns', reply', rows', connection'⟩ :=
    Named.run_of_accepted (same ▸ regular.accepted) logs (nameable.asks bindable)
  rw [same] at columns' reply' rows' connection'
  refine ⟨p, p', t, t', run, run', ⟨_, ⟨cursor, reply', rows', columns, columns'⟩, regular⟩, ?_, ?_⟩
  · refine ⟨?_, ?_⟩
    · rw [connection, connection']
      split <;> exact script
    · rw [connection]
      exact later
  · intro inserts
    rw [connection, connection', if_pos inserts]

/-- A compiled statement with a value that cannot be bound is refused on both sides. -/
theorem refused (h : Sessions s s') (nameable : compiled.Nameable)
    (unbindable : ¬compiled.Bindable) (logs : Bool) :
    ∃ t t', s.run logs compiled = (.error .badValue, t) ∧
      s'.run logs compiled = (.error .badValue, t') ∧ Sessions t t' := by
  obtain ⟨t, run, kept⟩ := Positional.run_of_not_bindable s logs unbindable
  obtain ⟨t', run', kept'⟩ := Named.run_of_not_bindable s' logs nameable unbindable
  refine ⟨t, t', run, run', ?_, ?_⟩
  · rw [kept, kept']
    exact h.script
  · rw [kept]
    exact h.regular

variable {p : Positional.Prepared} {p' : Named.Prepared}

/-- Closing leaves sessions at the same place. -/
theorem Sessions.close (h : Sessions s s') (p : Positional.driver.Prepared)
    (p' : Named.driver.Prepared) : Sessions (s.close p).2 (s'.close p').2 := by
  have kept : (s.close p).2.connection = s.connection := Positional.connection_close p _
  have kept' : (s'.close p').2.connection = s'.connection := Named.connection_close p' _
  refine ⟨?_, ?_⟩
  · rw [kept, kept', h.script]
  · rw [kept]
    exact h.regular

/-- Repeated column names are refused on both sides. -/
theorem Executed.settled (h : Executed compiled p p' s s') :
    Corresponds Reading (s.settled p).1 (s'.settled p').1 ∧
      Sessions (s.settled p).2 (s'.settled p').2 := by
  obtain ⟨cursor, reads, regular⟩ := h.reads
  have same : Named.driver.columns p' = Positional.driver.columns p :=
    reads.columns'.trans reads.columns.symm
  unfold Session.settled
  rw [same]
  cases repeated : repeatedNames (Positional.driver.columns p) with
  | nil => exact ⟨.ok ⟨cursor, reads, nodup_of_repeatedNames repeated, regular⟩, h.sessions⟩
  | cons name names => exact ⟨.error _, h.sessions.close p p'⟩

/-- A fetch gives the same row. -/
theorem fetched (h : Sessions s s') (reading : Reading p p') :
    (s.fetch p).1 = (s'.fetch p').1 ∧ Reading (s.fetch p).2.1 (s'.fetch p').2.1 ∧
      Sessions (s.fetch p).2.2 (s'.fetch p').2.2 := by
  obtain ⟨cursor, reads, distinct, regular⟩ := reading
  have left := Positional.fetch_of_regular reads.reads regular s.connection
  show (s.after (p.fetch s.connection)).1 = (s'.after (p'.fetch s'.connection)).1 ∧
    Reading (s.after (p.fetch s.connection)).2.1 (s'.after (p'.fetch s'.connection)).2.1 ∧
      Sessions (s.after (p.fetch s.connection)).2.2 (s'.after (p'.fetch s'.connection)).2.2
  have kept : Sessions (s.reach s.connection []) (s'.reach s'.connection []) :=
    ⟨h.script, h.regular⟩
  cases named : cursor.reply.columns with
  | none =>
    -- There are no rows, and the driver with named binds does not even look for them.
    have rows : p'.rows = none := by rw [reads.rows, named, Option.map_none]
    have right : p'.fetch s'.connection = ⟨.ok none, p', s'.connection, []⟩ := by
      simp only [Named.Prepared.fetch, rows]
    rw [regular.named named, List.getElem?_nil] at left
    rw [left, right]
    exact ⟨rfl, ⟨cursor, reads, distinct, regular⟩, kept⟩
  | some names =>
    have rows : p'.rows = some cursor := by rw [reads.rows, named, Option.map_some]
    have columns : p'.columns = names := by rw [reads.columns', named, Option.getD_some]
    have same : p'.columns = p.columns := reads.columns'.trans reads.columns.symm
    have right := Named.fetch_of_regular rows regular (named.trans (congrArg some columns.symm))
      (by rwa [same]) s'.connection
    rw [left, right, same]
    cases cursor.reply.rows[cursor.fetched]? with
    | none => exact ⟨rfl, ⟨cursor, reads, distinct, regular⟩, kept⟩
    | some row =>
      refine ⟨rfl, ⟨{ cursor with fetched := cursor.fetched + 1 }, ?_, distinct, regular⟩, kept⟩
      exact ⟨rfl, reads.reply, by rw [named]; rfl, reads.columns, reads.columns⟩

/-- The adapters are paired on scripts of replies without failures. -/
def pairing : Pairing Positional.driver Named.driver where
  session := Sessions
  reading := Reading
  runs := Sql.Compiled.Nameable
  generates compiled := Named.Prepared.inserts compiled.sql = true
  run {s s' compiled} sessions nameable logs := by
    by_cases bindable : compiled.Bindable
    · obtain ⟨p, p', t, t', run, run', executed⟩ := executed sessions nameable bindable logs
      rw [run, run']
      exact executed.settled
    · obtain ⟨t, t', run, run', refused⟩ := refused sessions nameable bindable logs
      rw [run, run']
      exact ⟨.error _, refused⟩
  fetch := fetched
  close sessions _ := sessions.close _ _
  rowCount reading := by
    obtain ⟨cursor, reads, -, -⟩ := reading
    simp only [Positional.driver, Positional.Prepared.rowCount, reads.reads, Named.driver,
      Named.Prepared.rowCount, reads.reply]
  identifier {s s' compiled logs p p' t t'} sessions nameable inserts left right := by
    have bindable : compiled.Bindable := by
      by_contra unbindable
      obtain ⟨u, u', run, -⟩ := refused sessions nameable unbindable logs
      cases (congrArg Prod.fst run).symm.trans (congrArg Prod.fst left)
    obtain ⟨q, q', u, u', run, run', executed⟩ := executed sessions nameable bindable logs
    -- Both statements came out of these runs, and closing them leaves the connections as they are.
    obtain ⟨rfl, rfl⟩ := Session.of_settled (run.symm.trans left)
    obtain ⟨rfl, rfl⟩ := Session.of_settled (run'.symm.trans right)
    have kept : (t.close p).2.connection = t.connection := Positional.connection_close p _
    have kept' : (t'.close p').2.connection = t'.connection := Named.connection_close p' _
    rw [kept, kept']
    exact executed.identifier inserts

/-! ## Programs -/

/-- What states with neutral texts compile is rewritten to one known name for each value. -/
theorem nameable_of_sound {st : State} (sound : st.Sound neutralTexts) {data : Value}
    (keys : neutralTexts.KeysHold data) (compiles : st.Compiles data compiled) :
    compiled.Nameable := by
  obtain ⟨l, spaced, aligned, rfl⟩ := sound.compiled keys compiles
  have names : (toNamedBinds l.compiled.sql).2 = bindNamesFrom 0 l.values.length := by
    have positions : Sql.placeholderPositions l.compiled.sql = Layout.offsetsFrom 0 l :=
      aligned.placeholderPositions
    rw [Sql.toNamedBinds_eq, positions, Layout.length_offsetsFrom]
  have rewritten : (toNamedBinds l.compiled.sql).1.toList = Layout.named none 0 l :=
    (Layout.scanned_of_placeholdersFrom (aligned.found 0)).toNamedBinds_text
  have ready : ∀ p ∈ l.head?, p.isHole = true → Sql.admitsBind none = true := fun _ _ _ => rfl
  -- The names that the database finds are those of the holes, so it knows each of them.
  obtain ⟨-, words⟩ := Layout.bindColons_named spaced.chain (.inl rfl) ready 0 0
  constructor
  · rw [names, bindNamesFrom, List.length_map, List.length_range']
    rfl
  · intro name member
    rw [names] at member
    rw [bindNames, List.mem_eraseDups, rewritten, words]
    exact List.mem_map.2 ⟨name.toList, List.mem_map_of_mem member, String.ofList_toList⟩

/-- An INSERT begins with the word that the driver with named binds looks for. -/
theorem inserts_of_compileInsert {st : State} {data : Value}
    (compiles : st.compileInsert data = .ok compiled) :
    Named.Prepared.inserts compiled.sql = true := by
  obtain ⟨source, pairs, columns, -, -, -, rfl⟩ := State.of_compileInsert compiles
  obtain ⟨rest, opening⟩ : ∃ rest, (State.insertLayout source.sql.display
      (commaSeparated columns) (pairs.map Prod.snd)).text.toList =
        "INSERT INTO ".toList ++ rest := by
    rw [State.insertLayout, Layout.text_append, Layout.text_ofText, String.toList_append]
    exact ⟨_, rfl⟩
  have word : (Text.trimLeftBy Text.isBlank ("INSERT INTO ".toList ++ rest)).take 6 =
      "INSERT".toList := rfl
  show Named.Prepared.inserts (Layout.text _) = true
  rw [Named.Prepared.inserts, opening, word]
  decide

/-- What states with neutral texts compile can be run on both drivers. -/
theorem fits : pairing.Fits neutralTexts where
  runs sound keys compiles := nameable_of_sound sound keys compiles
  generates compiles := inserts_of_compileInsert compiles

end Adapters

/-- A workspace in which nothing was done yet. -/
def Workspace.opened {d : Driver} (options : Options) (connection : d.Connection) : Workspace d :=
  { statement := .blank options (some { connection := connection }) }

/-- The adapters are interchangeable. On a script of replies without failures, steps through
statements and iterators whose texts and keys are neutral give the same answers on both, step by
step: rows and their columns in order, counts, identifiers and errors. -/
theorem adapters_interchangeable (options : Options) (emptyGroup : Neutral options.emptyGroup)
    (connection : Connection) (regular : connection.Regular) (todo : List Step)
    (through : ∀ s ∈ todo, s.throughStatement = true)
    (clean : Workspace.Clean neutralTexts todo
      (.opened (d := Positional.driver) options connection)) :
    ((Workspace.opened (d := Positional.driver) options connection).steps todo).1 =
      ((Workspace.opened (d := Named.driver) options connection).steps todo).1 := by
  have sessions : Adapters.Sessions { connection := connection } { connection := connection } :=
    ⟨rfl, regular⟩
  have workspaces : Adapters.pairing.Workspaces
      (.opened (d := Positional.driver) options connection)
      (.opened (d := Named.driver) options connection) :=
    ⟨.mk (.some sessions), .nil⟩
  have sound : Statement.Sound neutralTexts
      (Workspace.opened (d := Positional.driver) options connection).statement :=
    ⟨emptyGroup, State.sound_empty⟩
  exact (workspaces.steps Adapters.fits todo sound through clean).1

/-- A connection with replies to a reading, an insertion, an iterator and a deletion; the third has
two columns of one name. -/
def exchanges : Connection where
  script :=
    [{ columns := some ["id", "name"], rows := [[.int 4, .text "a"], [.int 5, .text "b"]] },
      { lastRowId := .int 6 },
      { columns := some ["id", "id"], rows := [[.int 4, .int 4]] },
      { rowCount := 2 }]

/-- Steps that read, insert, pull all rows and delete. -/
def exchangeSteps : List Step :=
  let text (s : String) : Arg := .value (.text s)
  [.call (.readFrom (text "users") (.value .null)),
    .call (.require .rows (text "id") (text ">") (.value (.int 3)) (text "AND")),
    .call .get,
    .call (.insert (.value (.mapping [(.text "name", .text ":z?")]))),
    .morph Transform.whole false,
    .rest 0,
    .call .delete]

/-- Both adapters read, insert and delete, and both refuse the repeated columns. -/
theorem adapters_interchangeable_exchanges :
    ((Workspace.opened (d := Positional.driver) {} exchanges).steps exchangeSteps).1 =
        ((Workspace.opened (d := Named.driver) {} exchanges).steps exchangeSteps).1 ∧
      ((Workspace.opened (d := Named.driver) {} exchanges).steps exchangeSteps).1.map
          (fun answer => answer.toOption.isSome) =
        [true, true, true, true, true, false, true] := by
  have regular : exchanges.Regular := by
    intro reply member
    simp only [exchanges, List.mem_cons, List.not_mem_nil, or_false] at member
    rcases member with rfl | rfl | rfl | rfl
    all_goals exact ⟨rfl, rfl, by simp, by simp⟩
  have table : (Value.text "users").trim?.isSome = true →
      neutralTexts.Holds (Value.text "users").display :=
    fun _ => (by decide : Neutral "users")
  have field {s : String} (h : Neutral s) : neutralTexts.FieldHolds (.text s) :=
    TextClass.fieldHolds_text h
  have test : neutralTexts.FieldHolds (.text "id") ∧ neutralTexts.FieldHolds (.text ">") :=
    ⟨field (by decide), field (by decide)⟩
  have keys : neutralTexts.KeysHold (.mapping [(.text "name", .text ":z?")]) := by
    intro pairs found key hk
    rw [← Option.some.inj found] at hk
    rw [List.mem_singleton.1 hk]
    exact (by decide : Neutral "name")
  refine ⟨adapters_interchangeable {} (by decide) exchanges regular exchangeSteps (by decide) ?_,
    ?_⟩
  · exact ⟨⟨table, trivial⟩, ⟨test, trivial⟩, ⟨trivial, trivial⟩, ⟨trivial, keys⟩, trivial, trivial,
      ⟨trivial, trivial⟩, trivial⟩
  · decide +kernel

end SqlBuilder
