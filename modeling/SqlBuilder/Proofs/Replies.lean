import SqlBuilder.Driver.Named
import SqlBuilder.Driver.Positional
import SqlBuilder.Driver.Recording

/-!
# Rows of a reply

What a prepared statement fetches is settled when it is executed: the rows of the reply that the
execution took, one after another, whatever else happens on the connection. `RowSource` states this
law of a driver, and the drivers of this library obey it.
-/

set_option autoImplicit false

namespace SqlBuilder

/-- Where the rows of a driver come from. -/
structure Driver.RowSource (d : Driver) where
  /-- The reply that the next execution takes. -/
  reply : d.Connection → Reply
  /-- The rows of a reply. -/
  rows : Reply → List Row
  /-- The rows that a prepared statement has still to give. -/
  coming : d.Prepared → List Row
  /-- A statement that was just prepared has none to give. -/
  prepared : ∀ (sql : String) (c : d.Connection), coming (d.prepare sql c).1 = []
  /-- Binding does not change what a statement has to give. -/
  bound : ∀ (p : d.Prepared) (c : d.Connection) (position : Int) (value : Value) (tag : Tag),
    coming (d.bind p c position value tag).prepared = coming p
  /-- A statement that was executed gives the rows of the reply, if it had none left to give. -/
  executed : ∀ {p : d.Prepared} {c : d.Connection}, coming p = [] →
    (d.execute p c).outcome = .ok () → coming (d.execute p c).prepared = rows (reply c)
  /-- A fetched row is the first of those to come. -/
  fetched : ∀ {p : d.Prepared} {c : d.Connection} {row : Row},
    (d.fetch p c).outcome = .ok (some row) → coming p = row :: coming (d.fetch p c).prepared
  /-- When there is no further row, none is left. -/
  exhausted : ∀ {p : d.Prepared} {c : d.Connection}, (d.fetch p c).outcome = .ok none →
    coming p = []

/-- What a cursor has still to give. -/
def Cursor.coming (cursor : Cursor) : List (List Value) :=
  cursor.reply.rows.drop cursor.fetched

namespace Cursor

/-- A fetched row is the first of those to come. -/
theorem coming_of_fetch {cursor : Cursor} {row : List Value}
    (h : cursor.fetch.1 = .ok (some row)) :
    cursor.coming = row :: cursor.fetch.2.coming ∧ cursor.fetch.2.reply = cursor.reply := by
  unfold fetch at h ⊢
  split at h
  · cases h
  · rename_i next found
    obtain ⟨bound, here⟩ := List.getElem?_eq_some_iff.1 found
    rw [← Option.some.inj (Except.ok.inj h), ← here, coming, List.drop_eq_getElem_cons bound]
    exact ⟨rfl, rfl⟩
  · cases h

/-- When there is no further row, none is left. -/
theorem coming_of_exhausted {cursor : Cursor} (h : cursor.fetch.1 = .ok none) :
    cursor.coming = [] := by
  unfold fetch at h
  split at h
  · cases h
  · cases h
  · rename_i found
    exact List.drop_eq_nil_of_le (List.getElem?_eq_none_iff.1 found)

end Cursor

/-- The rows of a reply by column name. -/
def Reply.keyed (reply : Reply) : List Row :=
  reply.rows.map (Row.zip (reply.columns.getD []))

namespace Recording.Prepared

/-- The rows that a prepared statement has still to give. -/
def coming (p : Prepared) : List Row :=
  (p.cursor.map fun cursor => cursor.coming.map (Row.zip p.columns)).getD []

/-- A statement that was executed gives the rows of the reply. -/
theorem coming_of_execute {p : Prepared} {c : Connection} (h : (p.execute c).outcome = .ok ()) :
    (p.execute c).prepared.coming = c.next.1.keyed := by
  unfold execute at h ⊢
  cases failed : c.next.1.failure with
  | some failure => simp [failed] at h
  | none => simp [failed, coming, columns, Cursor.coming, Reply.keyed]

/-- What is fetched is the first of the rows to come, or nothing when none is left. -/
theorem coming_of_fetch {p : Prepared} {c : Connection} {row : Option Row}
    (h : (p.fetch c).outcome = .ok row) :
    p.coming = row.elim [] (· :: (p.fetch c).prepared.coming) := by
  unfold fetch at h ⊢
  cases reads : p.cursor with
  | none =>
    simp only [reads, Except.ok.injEq] at h
    simp [coming, reads, ← h]
  | some cursor =>
    simp only [reads] at h
    obtain ⟨found, fetched, rfl⟩ := of_mapped_eq_ok h
    cases found with
    | none => simp [coming, reads, Cursor.coming_of_exhausted fetched]
    | some values =>
      obtain ⟨first, same⟩ := Cursor.coming_of_fetch fetched
      simp [coming, columns, reads, first, same]

end Recording.Prepared

/-- The rows of the recording driver. -/
def Recording.rowSource : Recording.driver.RowSource where
  reply c := c.next.1
  rows := Reply.keyed
  coming := Prepared.coming
  prepared _ _ := rfl
  bound _ _ _ _ _ := rfl
  executed _ h := Prepared.coming_of_execute h
  fetched h := Prepared.coming_of_fetch h
  exhausted h := Prepared.coming_of_fetch h

namespace Positional.Prepared

/-- The rows that a prepared statement has still to give. -/
def coming (p : Prepared) : List Row :=
  (p.cursor.map fun cursor => cursor.coming.map (Row.zip p.columns)).getD []

/-- Binding does not change what a statement has to give. -/
theorem coming_bind (p : Prepared) (c : Connection) (position : Int) (value : Value) (tag : Tag) :
    (p.bind c position value tag).prepared.coming = p.coming := by
  unfold bind
  split
  · rfl
  · split <;> rfl

/-- A statement that was executed gives the rows of the reply. -/
theorem coming_of_execute {p : Prepared} {c : Connection} (h : (p.execute c).outcome = .ok ()) :
    (p.execute c).prepared.coming = c.next.1.keyed := by
  unfold execute at h ⊢
  cases failed : c.next.1.failure with
  | some failure => simp [failed] at h
  | none => simp [failed, coming, Cursor.coming, Reply.keyed]

/-- What is fetched is the first of the rows to come, or nothing when none is left. -/
theorem coming_of_fetch {p : Prepared} {c : Connection} {row : Option Row}
    (h : (p.fetch c).outcome = .ok row) :
    p.coming = row.elim [] (· :: (p.fetch c).prepared.coming) := by
  unfold fetch at h ⊢
  cases reads : p.cursor with
  | none =>
    simp only [reads, Except.ok.injEq] at h
    simp [coming, reads, ← h]
  | some cursor =>
    simp only [reads] at h
    obtain ⟨found, fetched, rfl⟩ := of_mapped_eq_ok h
    cases found with
    | none => simp [coming, reads, Cursor.coming_of_exhausted fetched]
    | some values => simp [coming, reads, (Cursor.coming_of_fetch fetched).1]

end Positional.Prepared

/-- The rows of the positional driver. -/
def Positional.rowSource : Positional.driver.RowSource where
  reply c := c.next.1
  rows := Reply.keyed
  coming := Prepared.coming
  prepared _ _ := rfl
  bound := Prepared.coming_bind
  executed _ h := Prepared.coming_of_execute h
  fetched h := Prepared.coming_of_fetch h
  exhausted h := Prepared.coming_of_fetch h

namespace Named

/-- The row of all columns, as far as each has a value. -/
def shownRow (columns : List String) (values : List Value) : Row :=
  (Prepared.complete columns (Row.zip columns values)).toOption.getD default

/-- The rows of a reply by column name, if it has a result. -/
def keyed (reply : Reply) : List Row :=
  (reply.columns.map fun columns => reply.rows.map (shownRow columns)).getD []

namespace Prepared

/-- The rows that a prepared statement has still to give. -/
def coming (p : Prepared) : List Row :=
  (p.rows.map fun cursor => cursor.coming.map (shownRow p.columns)).getD []

/-- Binding does not change what a statement has to give. -/
theorem coming_bind (p : Prepared) (c : Connection) (position : Int) (value : Value) (tag : Tag) :
    (p.bind c position value tag).prepared.coming = p.coming := by
  unfold bind
  split
  · split
    · split <;> rfl
    · rfl
  · rfl

/-- A statement that was executed gives the rows of the reply, if it had none left to give. -/
theorem coming_of_execute {p : Prepared} {c : Connection} (read : p.coming = [])
    (h : (p.execute c).outcome = .ok ()) :
    (p.execute c).prepared.coming = keyed c.next.1 := by
  unfold execute at h ⊢
  cases known : !p.bindsKnown with
  | true => simp [known] at h
  | false =>
    cases failed : c.next.1.failure with
    | some failure => simp [known, failed] at h
    | none =>
      cases result : c.next.1.columns with
      | none => simpa [failed, accept, result, keyed, coming] using read
      | some columns => simp [failed, accept, result, keyed, coming, Cursor.coming]

/-- What is fetched is the first of the rows to come, or nothing when none is left. -/
theorem coming_of_fetch {p : Prepared} {c : Connection} {row : Option Row}
    (h : (p.fetch c).outcome = .ok row) :
    p.coming = row.elim [] (· :: (p.fetch c).prepared.coming) := by
  unfold fetch at h ⊢
  cases reads : p.rows with
  | none =>
    simp only [reads, Except.ok.injEq] at h
    simp [coming, reads, ← h]
  | some cursor =>
    cases fetched : cursor.fetch.1 with
    | error failure => simp [reads, fetched] at h
    | ok found =>
      cases found with
      | none =>
        simp only [reads, fetched, Except.ok.injEq] at h
        simp [coming, reads, ← h, Cursor.coming_of_exhausted fetched]
      | some values =>
        simp only [reads, fetched] at h
        obtain ⟨first, -⟩ := Cursor.coming_of_fetch fetched
        cases shown : complete p.columns (Row.zip p.columns values) with
        | error e => simp [shown, Except.map] at h
        | ok complete =>
          simp only [shown, Except.map, Except.ok.injEq] at h
          have this : shownRow p.columns values = complete := by
            rw [shownRow, shown]
            rfl
          simp [coming, reads, first, ← h, this]

end Prepared

/-- The rows of the driver with named binds. -/
def rowSource : driver.RowSource where
  reply c := c.next.1
  rows := keyed
  coming := Prepared.coming
  prepared _ _ := rfl
  bound := Prepared.coming_bind
  executed read h := Prepared.coming_of_execute read h
  fetched h := Prepared.coming_of_fetch h
  exhausted h := Prepared.coming_of_fetch h

end Named

/-! ## Some connections only -/

namespace Driver

variable {d : Driver} {P : d.Connection → Prop}

/-- A property of connections that every exchange keeps. -/
structure Keeps (d : Driver) (P : d.Connection → Prop) : Prop where
  /-- Preparing keeps it. -/
  prepare : ∀ sql c, P c → P (d.prepare sql c).2.1
  /-- Binding keeps it. -/
  bind : ∀ p c position value tag, P c → P (d.bind p c position value tag).connection
  /-- Executing keeps it. -/
  execute : ∀ p c, P c → P (d.execute p c).connection
  /-- Fetching keeps it. -/
  fetch : ∀ p c, P c → P (d.fetch p c).connection
  /-- Closing keeps it. -/
  close : ∀ p c, P c → P (d.close p c).2.1

/-- A driver on the connections with a property. -/
def restrict (d : Driver) (P : d.Connection → Prop) (keeps : d.Keeps P) : Driver where
  Connection := { c : d.Connection // P c }
  Prepared := d.Prepared
  Event := d.Event
  prepare sql c :=
    ((d.prepare sql c.1).1, ⟨(d.prepare sql c.1).2.1, keeps.prepare sql c.1 c.2⟩,
      (d.prepare sql c.1).2.2)
  bind p c position value tag :=
    let contact := d.bind p c.1 position value tag
    ⟨contact.outcome, contact.prepared,
      ⟨contact.connection, keeps.bind p c.1 position value tag c.2⟩, contact.events⟩
  execute p c :=
    let contact := d.execute p c.1
    ⟨contact.outcome, contact.prepared, ⟨contact.connection, keeps.execute p c.1 c.2⟩,
      contact.events⟩
  columns := d.columns
  fetch p c :=
    let contact := d.fetch p c.1
    ⟨contact.outcome, contact.prepared, ⟨contact.connection, keeps.fetch p c.1 c.2⟩,
      contact.events⟩
  rowCount := d.rowCount
  close p c :=
    ((d.close p c.1).1, ⟨(d.close p c.1).2.1, keeps.close p c.1 c.2⟩, (d.close p c.1).2.2)
  lastInsertId c := d.lastInsertId c.1
  remaining p c := d.remaining p c.1
  remaining_fetch p c row h := d.remaining_fetch p c.1 row h

/-- The rows are those of the unrestricted driver. -/
def RowSource.restrict (rowsOf : d.RowSource) (keeps : d.Keeps P) :
    (d.restrict P keeps).RowSource where
  reply c := rowsOf.reply c.1
  rows := rowsOf.rows
  coming := rowsOf.coming
  prepared sql c := rowsOf.prepared sql c.1
  bound p c := rowsOf.bound p c.1
  executed read h := rowsOf.executed read h
  fetched h := rowsOf.fetched h
  exhausted h := rowsOf.exhausted h

end Driver

end SqlBuilder
