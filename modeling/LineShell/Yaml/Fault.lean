/-
  LineShell/Yaml/Fault.lean
  =========================
  **What can be wrong with a document.**

  Most faults are violations of the grammar and need no further word.  The others
  are bytes that are no text, and scalars whose explicit or implied type their text
  does not fit.
-/
import LineShell.Config.Date
import LineShell.Text.Quoted

namespace LineShell.Yaml

/-- Why a document has no value. -/
inductive DocumentFault where
  | undecodable
  /-- The text violates the grammar, or a node has a type that is not known. -/
  | malformed
  /-- Too many collections enclose each other. -/
  | tooDeep
  /-- The text of an integer is none in its base. -/
  | integer (base : Nat) (text : Text)
  /-- A decimal integer has too many digits. -/
  | longInteger (digits : Nat)
  /-- The text of a floating-point number is none. -/
  | float (text : Text)
  /-- A sexagesimal number has so many groups that the weight of the first is no
      floating-point number. -/
  | heavyGroup
  /-- The text of a number is empty, its sign apart. -/
  | emptyNumber
  /-- The text of a truth value is none. -/
  | truthValue (text : Text)
  | date (f : DateFault)
  /-- The text of a date does not look like one. -/
  | noDate
  | mappingDate
  /-- The default text of a mapping is that of the mapping itself. -/
  | endlessDefault
  /-- An escape names a code point beyond the last one. -/
  | codePoint
  /-- An escape names a number that needs more than 31 bits. -/
  | wideCodePoint
deriving DecidableEq, Repr

/-- The wording of a fault; bytes that are no text and violations of the grammar
    have none of their own. -/
def DocumentFault.message : DocumentFault → Text
  | .undecodable => []
  | .malformed => []
  | .tooDeep => Text.ofString "maximum recursion depth exceeded"
  | .integer base text =>
    Text.ofString "invalid literal for int() with base " ++ Text.ofNat base ++
      Text.ofString ": " ++ text.quoted.take 200
  | .longInteger digits =>
    Text.ofString "Exceeds the limit (4300 digits) for integer string conversion: value has " ++
      Text.ofNat digits ++
      Text.ofString " digits; use sys.set_int_max_str_digits() to increase the limit"
  | .float text => Text.ofString "could not convert string to float: " ++ text.quoted
  | .heavyGroup => Text.ofString "int too large to convert to float"
  | .emptyNumber => Text.ofString "string index out of range"
  | .truthValue text => text.quoted
  | .date f => f.message
  | .noDate => Text.ofString "'NoneType' object has no attribute 'groupdict'"
  | .mappingDate => Text.ofString "expected string or bytes-like object, got 'list'"
  | .endlessDefault => Text.ofString "maximum recursion depth exceeded"
  | .codePoint => Text.ofString "chr() arg not in range(0x110000)"
  | .wideCodePoint => Text.ofString "Python int too large to convert to C int"

end LineShell.Yaml
