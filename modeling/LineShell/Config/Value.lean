/-
  LineShell/Config/Value.lean
  ===========================
  **Configuration values.**

  A configuration document is a tree of values.  Where a document refers back to
  a collection that is still open, the tree holds a `loop` in its place, so that
  every value is finite.

  A value has two texts: `toText?` is its own, and `display?` is how it appears
  inside a collection, where texts are quoted.  A value that is or holds a whole
  number of more than 4300 digits has neither.
-/
import LineShell.Config.Date
import LineShell.Number.Shortest
import LineShell.Text.Digit
import LineShell.Text.Quoted

namespace LineShell

/-- The kinds of collections that can enclose themselves. -/
inductive Enclosure where
  | list
  | mapping
  | pair
deriving DecidableEq, Repr

inductive Value where
  | null
  | bool (b : Bool)
  | int (n : Int)
  | float (x : Binary64)
  | text (t : Text)
  | bytes (content : List UInt8)
  | date (d : Date)
  | moment (m : Moment)
  | list (items : List Value)
  | mapping (fields : List (Value × Value))
  | set (items : List Value)
  | pair (first second : Value)
  /-- A collection that encloses this place. -/
  | loop (kind : Enclosure)
deriving Repr, Inhabited

namespace Value

/-- The name of the type of a value. -/
def typeName : Value → String
  | .null => "NoneType"
  | .bool _ => "bool"
  | .int _ => "int"
  | .float _ => "float"
  | .text _ => "str"
  | .bytes _ => "bytes"
  | .date _ => "date"
  | .moment _ => "datetime"
  | .list _ => "list"
  | .mapping _ => "dict"
  | .set _ => "set"
  | .pair _ _ => "tuple"
  | .loop .list => "list"
  | .loop .mapping => "dict"
  | .loop .pair => "tuple"

/-- Null, false, zero and everything empty are blank; all else is not. -/
def isBlank : Value → Bool
  | .null => true
  | .bool b => !b
  | .int n => n == 0
  | .float x => x.isZero
  | .text t => t.isEmpty
  | .bytes content => content.isEmpty
  | .list items => items.isEmpty
  | .mapping fields => fields.isEmpty
  | .set items => items.isEmpty
  | .date _ | .moment _ | .pair _ _ | .loop _ => false

/-! ### Texts of values -/

/-- A number has an exponent part below 10^-4 and from 10^16 on, and its exponent
    has at least two digits. -/
def floatFormat : NumberFormat := ⟨-4, 16, 2⟩

def floatText (x : Binary64) : Text := (x.format floatFormat).map .char

/-- How a byte is written between quotes of the kind `quote`. -/
def escapedByte (quote : Char) (b : UInt8) : List Char :=
  let c := Char.ofNat b.toNat
  if c = quote ∨ c = '\\' then ['\\', c]
  else if c = '\n' then ['\\', 'n']
  else if c = '\r' then ['\\', 'r']
  else if c = '\t' then ['\\', 't']
  else if 0x20 ≤ b.toNat ∧ b.toNat < 0x7F then [c]
  else '\\' :: 'x' :: Text.hexDigits 2 b.toNat

def bytesText (content : List UInt8) : Text :=
  let single : UInt8 := 0x27
  let double : UInt8 := 0x22
  let quote := if content.contains single && !content.contains double then '"' else '\x27'
  ('b' :: quote :: content.flatMap (escapedByte quote) ++ [quote]).map .char

/-- Texts between an opening and a closing mark, with commas. -/
def enclosed (first last : Char) (items : List Text) : Text :=
  .char first :: Text.joinWith (Text.ofString ", ") items ++ [.char last]

/-- The least magnitude of a whole number with more digits than are shown. -/
def unshowable : Nat := Nat.pow 10 mostDigits

/-- The text of a whole number, unless it has too many digits. -/
def intText? (n : Int) : Option Text :=
  if n.natAbs < unshowable then some (Text.ofInt n) else none

mutual

/-- How a value appears inside a collection. -/
def display? : Value → Option Text
  | .null => some (Text.ofString "None")
  | .bool b => some (Text.ofString (if b then "True" else "False"))
  | .int n => intText? n
  | .float x => some (floatText x)
  | .text t => some t.quoted
  | .bytes content => some (bytesText content)
  | .date d => some d.display
  | .moment m => some m.display
  | .list items => (displayItems? items).map (enclosed '[' ']')
  | .mapping fields => (displayFields? fields).map (enclosed '\x7b' '\x7d')
  | .set items =>
    if items.isEmpty then some (Text.ofString "set()")
    else (displayItems? items).map (enclosed '\x7b' '\x7d')
  | .pair a b =>
    match display? a, display? b with
    | some a, some b => some (enclosed '(' ')' [a, b])
    | _, _ => none
  | .loop .list => some (Text.ofString "[...]")
  | .loop .mapping => some (Text.ofString "\x7b...\x7d")
  | .loop .pair => some (Text.ofString "(...)")

/-- How the items of a collection appear in it. -/
def displayItems? : List Value → Option (List Text)
  | [] => some []
  | v :: rest =>
    match display? v, displayItems? rest with
    | some t, some ts => some (t :: ts)
    | _, _ => none

/-- How the fields of a mapping appear in it. -/
def displayFields? : List (Value × Value) → Option (List Text)
  | [] => some []
  | (k, v) :: rest =>
    match display? k, display? v, displayFields? rest with
    | some k, some v, some ts => some ((k ++ Text.ofString ": " ++ v) :: ts)
    | _, _, _ => none

end

/-- A text is its own text, and so are dates; any other value is shown as inside a
    collection. -/
def toText? : Value → Option Text
  | .text t => some t
  | .date d => some d.text
  | .moment m => some m.text
  | v => v.display?

end Value

end LineShell
