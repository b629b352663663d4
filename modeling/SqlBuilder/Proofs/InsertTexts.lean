import SqlBuilder.Proofs.Adapters
import SqlBuilder.Proofs.OnePass

/-!
# Which texts insert

The driver with named binds looks at the first six characters after the blanks of a text. Named
binds do not change the answer: as long as no placeholder and no colon comes up, the rewritten text
is the text itself, and from there on neither of them says INSERT. Of the compiled statements only
insertions say it.
-/

set_option autoImplicit false

namespace SqlBuilder

open Sql (Compiled Quoting nameFrom toNamedBinds toNamedBinds_eq)
open Named.Prepared (inserts)

namespace Sql

/-- Some character is one that naming binds changes or adds. -/
def Marked (cs : List Char) : Prop :=
  ∃ c ∈ cs, c ∈ ['?', ':', '\\']

/-- A character before marked ones. -/
theorem Marked.cons {cs : List Char} (h : Marked cs) (c : Char) : Marked (c :: cs) :=
  h.imp fun _ => And.imp_left (List.mem_cons_of_mem c)

/-- A mark before any characters. -/
theorem Marked.head {c : Char} (cs : List Char) (h : c ∈ ['?', ':', '\\']) : Marked (c :: cs) :=
  ⟨c, List.mem_cons_self, h⟩

/-- What marks a placeholder is a question mark. -/
theorem eq_of_marks {quoting : Quoting} {c : Char} (h : quoting.marks c = true) : c = '?' := by
  rw [Quoting.marks, Bool.and_eq_true] at h
  exact eq_of_beq h.2

/-- At the beginning, naming binds changes nothing, or both texts have a mark there. -/
theorem take_nameFrom (count : Nat) (before : Option Char) (quoting : Quoting) (number : Nat)
    (cs : List Char) :
    (nameFrom before quoting number cs).take count = cs.take count ∨
      Marked ((nameFrom before quoting number cs).take count) ∧ Marked (cs.take count) := by
  induction count generalizing before quoting number cs with
  | zero => exact .inl rfl
  | succ count ih =>
    cases cs with
    | nil => exact .inl rfl
    | cons c cs =>
      rw [nameFrom]
      split
      · rename_i marks
        rw [eq_of_marks marks]
        exact .inr ⟨.head _ (by decide), .head _ (by decide)⟩
      · split
        · rename_i colon
          rw [Bool.and_eq_true, Bool.and_eq_true] at colon
          rw [eq_of_beq colon.1.1]
          exact .inr ⟨.head _ (by decide), .head _ (by decide)⟩
        · rw [List.take_succ_cons, List.take_succ_cons]
          rcases ih (some c) (quoting.step c) number cs with same | ⟨named, given⟩
          · exact .inl (by rw [same])
          · exact .inr ⟨named.cons c, given.cons c⟩

/-- Naming binds leaves blanks at the beginning where they are. -/
theorem trimLeft_nameFrom (before : Option Char) (quoting : Quoting) (number : Nat)
    (cs : List Char) :
    ∃ before' quoting', Text.trimLeftBy Text.isBlank (nameFrom before quoting number cs) =
      nameFrom before' quoting' number (Text.trimLeftBy Text.isBlank cs) := by
  unfold Text.trimLeftBy
  induction cs generalizing before quoting with
  | nil => exact ⟨before, quoting, rfl⟩
  | cons c cs ih =>
    cases blank : Text.isBlank c with
    | true =>
      -- A blank is neither a placeholder nor a colon, so it is copied.
      have plain (m : Char) (h : Text.isBlank m = false) : c ≠ m := by
        rintro rfl
        rw [blank] at h
        cases h
      have unmarked : quoting.marks c = false :=
        Bool.eq_false_iff.2 fun marks => plain '?' (by decide) (eq_of_marks marks)
      have other : (c == ':') = false := beq_eq_false_iff_ne.2 (plain ':' (by decide))
      have copied : nameFrom before quoting number (c :: cs) =
          c :: nameFrom (some c) (quoting.step c) number cs := by
        simp [nameFrom, unmarked, other]
      rw [copied, List.dropWhile_cons_of_pos blank, List.dropWhile_cons_of_pos blank]
      exact ih (some c) (quoting.step c)
    | false =>
      refine ⟨before, quoting, ?_⟩
      have stays : ¬Text.isBlank c = true := Bool.eq_false_iff.1 blank
      rw [List.dropWhile_cons_of_neg stays, nameFrom]
      split
      · exact List.dropWhile_cons_of_neg (by decide)
      · split
        · exact List.dropWhile_cons_of_neg (by decide)
        · exact List.dropWhile_cons_of_neg stays

/-- Marks stay marks in upper case, so a beginning with one does not say INSERT. -/
theorem upperChars_ne_of_marked {cs : List Char} (h : Marked cs) :
    (Text.upperChars cs == "INSERT".toList) = false := by
  obtain ⟨c, member, mark⟩ := h
  have kept : c ∈ Text.upperChars cs := by
    refine List.mem_flatMap.2 ⟨c, member, ?_⟩
    rcases List.mem_cons.1 mark with rfl | mark
    · decide
    · rcases List.mem_pair.1 mark with rfl | rfl <;> decide
  refine beq_eq_false_iff_ne.2 fun same => ?_
  rw [same] at kept
  rcases List.mem_cons.1 mark with rfl | mark
  · exact absurd kept (by decide)
  · rcases List.mem_pair.1 mark with rfl | rfl <;> exact absurd kept (by decide)

end Sql

/-- Named binds do not change whether a text inserts. -/
theorem inserts_toNamedBinds (sql : String) : inserts (toNamedBinds sql).1 = inserts sql := by
  obtain ⟨before, quoting, trimmed⟩ := Sql.trimLeft_nameFrom none none 0 sql.toList
  rw [toNamedBinds_eq, inserts, inserts, String.toList_ofList, trimmed]
  rcases Sql.take_nameFrom 6 before quoting 0 (Text.trimLeftBy Text.isBlank sql.toList) with
    same | ⟨named, given⟩
  · rw [same]
  · rw [Sql.upperChars_ne_of_marked named, Sql.upperChars_ne_of_marked given]

/-! ## Compiled statements -/

/-- A text that begins with another word than INSERT does not insert. -/
theorem not_inserts_of_word {word sql : String} (begins : ∃ rest, sql = word ++ rest)
    (other : ∀ rest, Text.upperChars
      ((Text.trimLeftBy Text.isBlank (word.toList ++ rest)).take 6) ≠ "INSERT".toList) :
    inserts sql = false := by
  obtain ⟨rest, rfl⟩ := begins
  rw [inserts, String.toList_append]
  exact beq_eq_false_iff_ne.2 (other rest.toList)

namespace State

variable {s : State} {compiled : Compiled}

/-- A compiled SELECT is no INSERT. -/
theorem not_inserts_of_compile (h : s.compile = .ok compiled) : inserts compiled.sql = false := by
  obtain ⟨text, selects, rfl⟩ := of_map_eq_ok h
  obtain ⟨source, -, selects⟩ := of_bind_eq_ok selects
  obtain ⟨columns, -, selects⟩ := of_bind_eq_ok selects
  obtain ⟨groups, -, selects⟩ := of_bind_eq_ok selects
  obtain ⟨-, -, selects⟩ := of_bind_eq_ok selects
  have begins : ∃ rest, text = "SELECT " ++ rest := by
    rw [← Except.ok.inj selects]
    simp only [String.append_assoc]
    exact ⟨_, rfl⟩
  exact not_inserts_of_word begins fun rest same => by cases same

/-- A compiled UPDATE is no INSERT. -/
theorem not_inserts_of_compileUpdate {data : Value} (h : s.compileUpdate data = .ok compiled) :
    inserts compiled.sql = false := by
  obtain ⟨source, -, h⟩ := of_bind_eq_ok h
  obtain ⟨given, -, h⟩ := of_bind_eq_ok h
  split at h
  · obtain ⟨-, -, h⟩ := of_bind_eq_ok h
    have begins : ∃ rest, compiled.sql = "UPDATE " ++ rest := by
      rw [← Except.ok.inj h]
      simp only [String.append_assoc]
      exact ⟨_, rfl⟩
    exact not_inserts_of_word begins fun rest same => by cases same
  · obtain ⟨-, -, h⟩ := of_bind_eq_ok h
    obtain ⟨-, -, h⟩ := of_bind_eq_ok h
    cases h

/-- A compiled DELETE is no INSERT. -/
theorem not_inserts_of_compileDelete (h : s.compileDelete = .ok compiled) :
    inserts compiled.sql = false := by
  obtain ⟨source, -, h⟩ := of_bind_eq_ok h
  have begins : ∃ rest, compiled.sql = "DELETE FROM " ++ rest := by
    rw [← Except.ok.inj h]
    simp only [String.append_assoc]
    exact ⟨_, rfl⟩
  exact not_inserts_of_word begins fun rest same => by cases same

end State

end SqlBuilder
