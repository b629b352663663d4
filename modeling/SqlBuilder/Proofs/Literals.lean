import SqlBuilder.Proofs.Replacements

/-!
# Placeholders and literals

A lexer of SQL reads a literal with lookahead: inside quotes a doubled quote stands for one quote,
and the literal ends at the first quote that no other follows. The scan for placeholders looks at
one character at a time and only notes in which quotes it is. `Lexes` is the grammar, `pieces` the
lexer that reads it, and every text has exactly one reading. The scan is behind in no literal: when
the lexer passes over a doubled quote, the scan leaves the literal and enters it again, so both find
the same question marks outside literals, also in a text that ends inside one.
-/

set_option autoImplicit false

namespace SqlBuilder.Sql

/-- A piece of SQL text as far as literals are told apart from the rest. -/
inductive Piece where
  /-- A character outside literals. -/
  | bare (c : Char)
  /-- A literal with its quote and what it holds. Only the last one of a text can be open. -/
  | literal (quote : Char) (content : List Char) (closed : Bool)
  deriving DecidableEq, Repr

/-- What a literal holds, as it is written: a quote is doubled. -/
def doubled (quote : Char) (content : List Char) : List Char :=
  content.flatMap fun c => if c = quote then [quote, quote] else [c]

namespace Piece

/-- The characters of a piece. -/
def spelled : Piece → List Char
  | bare c => [c]
  | literal quote content closed =>
    quote :: (doubled quote content ++ if closed then [quote] else [])

/-- The characters of pieces in a row. -/
def spelling (pieces : List Piece) : List Char :=
  pieces.flatMap spelled

/-- The offsets of the question marks outside literals, when the first piece has a given offset. -/
def marksFrom : Nat → List Piece → List Nat
  | _, [] => []
  | offset, piece :: rest =>
    let later := marksFrom (offset + piece.spelled.length) rest
    if piece = bare '?' then offset :: later else later

end Piece

/-- How a text is read. A literal ends at a quote that no other quote of its kind follows, or with
the text. -/
inductive Lexes : List Char → List Piece → Prop
  /-- Nothing is left. -/
  | done : Lexes [] []
  /-- A character outside literals is no quote. -/
  | bare {c : Char} {cs : List Char} {pieces : List Piece} (outside : isQuote c = false)
    (rest : Lexes cs pieces) : Lexes (c :: cs) (.bare c :: pieces)
  /-- A literal that ends before the text does. -/
  | closed {quote : Char} {content cs : List Char} {pieces : List Piece}
    (opens : isQuote quote = true) (ends : cs.head? ≠ some quote) (rest : Lexes cs pieces) :
    Lexes (quote :: (doubled quote content ++ quote :: cs))
      (.literal quote content true :: pieces)
  /-- A literal that does not end. -/
  | unclosed {quote : Char} {content : List Char} (opens : isQuote quote = true) :
    Lexes (quote :: doubled quote content) [.literal quote content false]

/-- What a literal holds after its opening quote, and what follows its closing quote if it has
one. -/
def readLiteral (quote : Char) : List Char → List Char × Option (List Char)
  | [] => ([], none)
  | [c] => if c = quote then ([], some []) else ([c], none)
  | c :: d :: cs =>
    if c = quote then
      if d = quote then
        let read := readLiteral quote cs
        (quote :: read.1, read.2)
      else ([], some (d :: cs))
    else
      let read := readLiteral quote (d :: cs)
      (c :: read.1, read.2)

/-- The characters from the closing quote of a literal on, if it has one. -/
def fromClosing (quote : Char) : Option (List Char) → List Char
  | none => []
  | some rest => quote :: rest

/-! ## Reading a literal -/

/-- Quotes are doubled one character at a time. -/
theorem doubled_cons (quote c : Char) (content : List Char) :
    doubled quote (c :: content) =
      (if c = quote then [quote, quote] else [c]) ++ doubled quote content :=
  List.flatMap_cons

/-- What is read of a literal is what it holds, and no other quote follows its closing one. -/
theorem readLiteral_spells (quote : Char) (cs : List Char) :
    cs = doubled quote (readLiteral quote cs).1 ++ fromClosing quote (readLiteral quote cs).2 ∧
      ∀ rest ∈ (readLiteral quote cs).2, rest.head? ≠ some quote := by
  fun_induction readLiteral quote cs with
  | case1 => exact ⟨rfl, nofun⟩
  | case2 =>
    refine ⟨rfl, fun rest found => ?_⟩
    rw [← Option.some.inj found]
    exact nofun
  | case3 c other =>
    refine ⟨?_, nofun⟩
    rw [doubled_cons, if_neg other]
    rfl
  | case4 cs read ih =>
    refine ⟨?_, ih.2⟩
    rw [doubled_cons, if_pos rfl, List.append_assoc, ← ih.1]
    rfl
  | case5 d cs other =>
    refine ⟨rfl, fun rest found => ?_⟩
    rw [← Option.some.inj found]
    exact fun same => other (Option.some.inj same)
  | case6 c d cs other read ih =>
    refine ⟨?_, ih.2⟩
    rw [doubled_cons, if_neg other, List.append_assoc, ← ih.1]
    rfl

/-- A literal is read up to the first quote that no other follows. -/
theorem readLiteral_doubled {quote : Char} {later : Option (List Char)}
    (ends : ∀ rest ∈ later, rest.head? ≠ some quote) (content : List Char) :
    readLiteral quote (doubled quote content ++ fromClosing quote later) = (content, later) := by
  induction content with
  | nil =>
    match later with
    | none => rfl
    | some [] => simp [doubled, fromClosing, readLiteral]
    | some (c :: cs) =>
      have other : c ≠ quote := fun same => ends _ rfl (congrArg some same)
      simp [doubled, fromClosing, readLiteral, other]
  | cons c content ih =>
    rw [doubled_cons]
    by_cases same : c = quote
    · simp [same, readLiteral, ih]
    · cases shape : doubled quote content ++ fromClosing quote later with
      | nil =>
        rw [shape] at ih
        obtain ⟨rfl, rfl⟩ := Prod.mk.inj ih
        simp [same, shape, readLiteral]
      | cons d more =>
        rw [shape] at ih
        simp [same, shape, readLiteral, ih]

/-- Reading a literal leaves no more characters than there were. -/
theorem length_readLiteral (quote : Char) (cs : List Char) :
    ((readLiteral quote cs).2.getD []).length ≤ cs.length := by
  have spells := congrArg List.length (readLiteral_spells quote cs).1
  rw [List.length_append] at spells
  cases later : (readLiteral quote cs).2 with
  | none => exact Nat.zero_le _
  | some rest =>
    rw [later, fromClosing, List.length_cons] at spells
    rw [Option.getD_some]
    omega

/-! ## The lexer -/

/-- The pieces of a text. -/
def pieces : List Char → List Piece
  | [] => []
  | c :: cs =>
    if isQuote c then
      .literal c (readLiteral c cs).1 (readLiteral c cs).2.isSome ::
        pieces ((readLiteral c cs).2.getD [])
    else .bare c :: pieces cs
termination_by cs => cs.length
decreasing_by
  · exact Nat.lt_succ_of_le (length_readLiteral c cs)
  · exact Nat.lt_succ_self _

/-- No characters have no pieces. -/
theorem pieces_nil : pieces [] = [] := by
  rw [pieces]

/-- The lexer reads a text as the grammar says. -/
theorem lexes_pieces (cs : List Char) : Lexes cs (pieces cs) := by
  fun_induction pieces cs with
  | case1 => exact .done
  | case2 c cs opens ih =>
    obtain ⟨spells, ends⟩ := readLiteral_spells c cs
    cases later : (readLiteral c cs).2 with
    -- The literal takes all that is left.
    | none =>
      rw [later, fromClosing, List.append_nil] at spells
      rw [Option.getD_none, pieces_nil, Option.isSome_none]
      nth_rewrite 1 [spells]
      exact .unclosed opens
    | some rest =>
      rw [later, fromClosing] at spells
      rw [later] at ih
      rw [Option.isSome_some]
      nth_rewrite 1 [spells]
      exact .closed opens (ends rest later) ih
  | case3 c cs outside ih => exact .bare (Bool.eq_false_iff.2 outside) ih

/-- A text is read in one way only. -/
theorem Lexes.eq_pieces {cs : List Char} {ps : List Piece} (h : Lexes cs ps) : ps = pieces cs := by
  induction h with
  | done => exact pieces_nil.symm
  | bare outside rest ih =>
    rw [pieces, if_neg (Bool.eq_false_iff.1 outside), ih]
  | @closed quote content cs ps opens ends rest ih =>
    have single : ∀ later ∈ some cs, later.head? ≠ some quote := by
      rintro _ ⟨⟩
      exact ends
    have read : readLiteral quote (doubled quote content ++ quote :: cs) = (content, some cs) :=
      readLiteral_doubled single content
    rw [pieces, if_pos opens, read, ih]
    rfl
  | @unclosed quote content opens =>
    have nothing : ∀ rest ∈ (none : Option (List Char)), rest.head? ≠ some quote := nofun
    have read := readLiteral_doubled nothing content
    rw [fromClosing, List.append_nil] at read
    rw [pieces, if_pos opens, read]
    exact congrArg _ pieces_nil.symm

/-- The pieces of a text spell it. -/
theorem Lexes.spelling {cs : List Char} {ps : List Piece} (h : Lexes cs ps) :
    Piece.spelling ps = cs := by
  induction h with
  | done => rfl
  | bare outside rest ih =>
    rw [Piece.spelling, List.flatMap_cons, ← Piece.spelling, ih]
    rfl
  | closed opens ends rest ih =>
    rw [Piece.spelling, List.flatMap_cons, ← Piece.spelling, ih]
    simp [Piece.spelled]
  | unclosed opens => simp [Piece.spelling, Piece.spelled]

/-! ## The scan -/

section Scan

variable {quote : Char} (opens : isQuote quote = true) (offset : Nat)

include opens

/-- A quote is no placeholder, and outside literals it opens one. -/
theorem placeholdersFrom_opening (cs : List Char) :
    placeholdersFrom none offset (quote :: cs) =
      placeholdersFrom (some quote) (offset + 1) cs := by
  have unmarked : quote ≠ '?' := by
    rintro rfl
    cases opens
  simp [placeholdersFrom, Quoting.step, Quoting.marks, opens, unmarked]

omit opens in
/-- A quote closes the literal that it opened. -/
theorem placeholdersFrom_closing (quote : Char) (cs : List Char) :
    placeholdersFrom (some quote) offset (quote :: cs) =
      placeholdersFrom none (offset + 1) cs := by
  simp [placeholdersFrom, Quoting.step, Quoting.marks]

omit opens in
/-- Nothing is found inside a literal. -/
theorem placeholdersFrom_inside {c : Char} (other : c ≠ quote) (cs : List Char) :
    placeholdersFrom (some quote) offset (c :: cs) =
      placeholdersFrom (some quote) (offset + 1) cs := by
  simp [placeholdersFrom, Quoting.step, Quoting.marks, other]

/-- What a literal holds leaves the scan in the literal: a doubled quote closes and opens it. -/
theorem placeholdersFrom_doubled (content rest : List Char) :
    placeholdersFrom (some quote) offset (doubled quote content ++ rest) =
      placeholdersFrom (some quote) (offset + (doubled quote content).length) rest := by
  induction content generalizing offset with
  | nil => rfl
  | cons c content ih =>
    rw [doubled_cons, List.append_assoc, List.length_append, ← Nat.add_assoc]
    by_cases same : c = quote
    · rw [if_pos same, List.cons_append, List.cons_append, List.nil_append,
        placeholdersFrom_closing, placeholdersFrom_opening opens, ih]
      rfl
    · rw [if_neg same, List.singleton_append, placeholdersFrom_inside offset same, ih]
      rfl

end Scan

/-- The scan finds the question marks outside literals. -/
theorem Lexes.placeholdersFrom_eq {cs : List Char} {ps : List Piece} (h : Lexes cs ps)
    (offset : Nat) : placeholdersFrom none offset cs = Piece.marksFrom offset ps := by
  induction h generalizing offset with
  | done => rfl
  | @bare c cs ps outside rest ih =>
    have stays : Quoting.step none c = none := by simp [Quoting.step, outside]
    rw [placeholdersFrom, stays, ih, Piece.marksFrom]
    simp [Quoting.marks, Piece.spelled]
  | @closed quote content cs ps opens ends rest ih =>
    -- The scan leaves and enters the literal at each doubled quote, but marks nothing there.
    have length : offset + 1 + (doubled quote content).length + 1 =
        offset + (Piece.literal quote content true).spelled.length := by
      simp only [Piece.spelled, if_true, List.length_cons, List.length_append, List.length_nil]
      omega
    rw [placeholdersFrom_opening opens, placeholdersFrom_doubled opens, placeholdersFrom_closing,
      ih, length]
    rfl
  | @unclosed quote content opens =>
    have ended := placeholdersFrom_doubled opens (offset + 1) content []
    rw [List.append_nil] at ended
    rw [placeholdersFrom_opening opens, ended]
    rfl

/-- An offset is that of a question mark outside literals exactly when such a piece begins there. -/
theorem Piece.mem_marksFrom_iff {start offset : Nat} {ps : List Piece} :
    offset ∈ marksFrom start ps ↔
      ∃ before behind, ps = before ++ bare '?' :: behind ∧
        offset = start + (spelling before).length := by
  induction ps generalizing start with
  | nil => simp [marksFrom]
  | cons piece rest ih =>
    have further (before : List Piece) : start + (spelling (piece :: before)).length =
        start + piece.spelled.length + (spelling before).length := by
      rw [spelling, List.flatMap_cons, List.length_append, ← Nat.add_assoc, ← spelling]
    have later : offset ∈ marksFrom (start + piece.spelled.length) rest ↔
        ∃ before behind, piece :: rest = piece :: before ++ bare '?' :: behind ∧
          offset = start + (spelling (piece :: before)).length := by
      simp only [ih, further, List.cons_append, List.cons.injEq, true_and]
    rw [marksFrom]
    constructor
    · intro found
      split at found
      · rename_i here
        rcases List.mem_cons.1 found with rfl | found
        · exact ⟨[], rest, by rw [here]; rfl, rfl⟩
        · obtain ⟨before, behind, same, place⟩ := later.1 found
          exact ⟨piece :: before, behind, same, place⟩
      · obtain ⟨before, behind, same, place⟩ := later.1 found
        exact ⟨piece :: before, behind, same, place⟩
    · rintro ⟨before, behind, same, place⟩
      cases before with
      | nil =>
        obtain ⟨rfl, rfl⟩ := List.cons.inj same
        rw [if_pos rfl, place]
        exact List.mem_cons_self
      | cons first before =>
        obtain ⟨rfl, -⟩ := List.cons.inj same
        have found := later.2 ⟨before, behind, same, place⟩
        split
        · exact List.mem_cons_of_mem _ found
        · exact found

/-- The scan honours doubled quotes. Every text can be read in exactly one way as characters outside
literals and literals, where a doubled quote is an escaped one and the last literal may be left
open, and the lexer reads it so. The scan finds, in increasing order, the offsets of exactly the
question marks that are outside the literals. -/
theorem placeholders_outside_literals (sql : String) :
    (∀ ps, Lexes sql.toList ps ↔ ps = pieces sql.toList) ∧
      Piece.spelling (pieces sql.toList) = sql.toList ∧
      placeholderPositions sql = Piece.marksFrom 0 (pieces sql.toList) ∧
      (placeholderPositions sql).Pairwise (· < ·) ∧
      ∀ offset, offset ∈ placeholderPositions sql ↔
        ∃ before behind, pieces sql.toList = before ++ .bare '?' :: behind ∧
          offset = (Piece.spelling before).length := by
  have reads := lexes_pieces sql.toList
  have found : placeholderPositions sql = Piece.marksFrom 0 (pieces sql.toList) :=
    reads.placeholdersFrom_eq 0
  refine ⟨?_, reads.spelling, found, pairwise_placeholdersFrom none 0 sql.toList, ?_⟩
  · intro ps
    constructor
    · exact Lexes.eq_pieces
    · rintro rfl
      exact reads
  · intro offset
    rw [found, Piece.mem_marksFrom_iff]
    simp only [Nat.zero_add]

/-- A doubled quote does not end its literal, nor does a quote of the other kind, and the last
literal here has no end. -/
example : placeholderPositions "'it''s ?' = ? AND \"?'\" = '?" = [12] := by
  decide

end SqlBuilder.Sql
