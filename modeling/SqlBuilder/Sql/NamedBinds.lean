import SqlBuilder.Sql.Placeholder
import SqlBuilder.Text.CharacterSets

/-!
# Named binds

Some databases name their bind parameters: a colon and a word. Placeholders become `:p0`, `:p1`
and so on, in order. A colon of the text that would be taken for a bind is escaped by a backslash
first. `bindNames` lists the names that a database finds in such a text.
-/

set_option autoImplicit false

namespace SqlBuilder.Sql

/-- Whether the first of some characters belongs to a word. -/
def startsWord : List Char → Bool
  | [] => false
  | c :: _ => Text.isWordChar c

/-- Whether a colon after this character would not be taken for a bind anyway. -/
def shieldsColon (before : Option Char) : Bool :=
  before == some ':' || before == some '\\'

/-- The characters with a backslash before every colon that starts a bind; `before` is the
character that precedes them. -/
def escapeColons : Option Char → List Char → List Char
  | _, [] => []
  | before, c :: cs =>
    let later := escapeColons (some c) cs
    if c == ':' && !shieldsColon before && startsWord cs then '\\' :: c :: later else c :: later

/-- The name of the bind parameter with a given number. -/
def bindName (index : Nat) : String :=
  "p" ++ toString index

/-- The characters with the one at an offset replaced by others. -/
def spliceAt (cs : List Char) (offset : Nat) (replacement : List Char) : List Char :=
  cs.take offset ++ replacement ++ cs.drop (offset + 1)

/-- The characters with named binds at the given offsets; the last offset is replaced first, so
the others stay valid. -/
def nameAt (cs : List Char) (binds : List (Nat × String)) : List Char :=
  binds.foldr (fun bind text => spliceAt text bind.1 (':' :: bind.2.toList)) cs

/-- A text with named binds for its placeholders, and the names in order. -/
def toNamedBinds (sql : String) : String × List String :=
  let escaped := escapeColons none sql.toList
  let positions := placeholdersFrom none 0 escaped
  let names := (List.range positions.length).map bindName
  (String.ofList (nameAt escaped (positions.zip names)), names)

/-- Whether a colon after this character can start a bind. -/
def admitsBind (before : Option Char) : Bool :=
  match before with
  | none => true
  | some c => !(c == ':' || c == '\\' || Text.isWordChar c)

/-- The words that a database takes for bind parameters, in order of appearance: each follows a
colon that neither a colon, a backslash nor a word precedes, and no colon follows it. -/
def bindWords : Option Char → List Char → List (List Char)
  | _, [] => []
  | before, c :: cs =>
    let later := bindWords (some c) cs
    if c == ':' && admitsBind before && startsWord cs then
      let word := cs.takeWhile Text.isWordChar
      match cs.dropWhile Text.isWordChar with
      | ':' :: _ => later
      | _ => word :: later
    else later

/-- The names of the bind parameters of a text, each once, in order of first appearance. -/
def bindNames (sql : String) : List String :=
  ((bindWords none sql.toList).map String.ofList).eraseDups

end SqlBuilder.Sql
