import SqlBuilder.Text.Blank
import SqlBuilder.Text.Upper
import SqlBuilder.Value.Basic

/-!
# Text operations on values

Texts and byte strings can be trimmed, split into words and put in upper case; other values have no
such operations. A byte string stays a byte string, and only ASCII counts in it.
-/

set_option autoImplicit false

namespace SqlBuilder

/-- Whether a byte separates words. -/
def isBlankByte (byte : UInt8) : Bool :=
  byte == 0x20 || (0x09 ≤ byte && byte ≤ 0x0D)

/-- The upper-case form of a byte. -/
def upperByte (byte : UInt8) : UInt8 :=
  if 0x61 ≤ byte && byte ≤ 0x7A then byte - 0x20 else byte

namespace Value

/-- A value without the blanks at its ends. -/
def trim? : Value → Option Value
  | text s => some (text (Text.trim s))
  | bytes .frozen data => some (bytes .frozen (Text.trimBy isBlankByte data))
  | bytes .buffer data => some (bytes .buffer (Text.trimBy isBlankByte data))
  | _ => none

/-- The words of a value. -/
def words? : Value → Option (List Value)
  | text s => some ((Text.words s).map text)
  | bytes .frozen data => some ((Text.wordsBy isBlankByte data).map (bytes .frozen))
  | bytes .buffer data => some ((Text.wordsBy isBlankByte data).map (bytes .buffer))
  | _ => none

/-- The upper-case form of a value. -/
def upper? : Value → Option Value
  | text s => some (text (Text.upper s))
  | bytes .frozen data => some (bytes .frozen (data.map upperByte))
  | bytes .buffer data => some (bytes .buffer (data.map upperByte))
  | _ => none

/-- A keyword as it is compared: trimmed and in upper case. -/
def keyword? (v : Value) : Option Value :=
  v.trim?.bind upper?

end Value

end SqlBuilder
