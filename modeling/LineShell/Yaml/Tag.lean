/-
  LineShell/Yaml/Tag.lean
  =======================
  **Names, tags and directives.**

  An anchor or an alias has a name.  A tag is written in full between angle
  brackets, or as a handle and a suffix; the handle stands for a text that a
  directive gives.  A directive line before a document gives its version or the
  meaning of a handle, and other directives are skipped.
-/
import LineShell.Text.Digit
import LineShell.Text.Encoding
import LineShell.Yaml.Cursor

namespace LineShell.Yaml

/-- A tag as it is written; a handle is absent where the tag is given in full. -/
structure TagText where
  handle : Option String
  suffix : String
deriving DecidableEq, Repr

inductive Directive where
  | version (major : Nat)
  | handle (handle meaning : String)
  | other
deriving DecidableEq, Repr

namespace Tag

open Scan

/-- A name of at least one character. -/
def name : Scan (List Char) := do
  let cs ← takeWhile isNameChar
  if cs.isEmpty then malformed
  return cs

/-- The name of an anchor or an alias, after its mark. -/
def anchorName : Scan String := do
  let cs ← name
  expect fun c => endsWord c || c.any fun c =>
    c == '?' || c == ':' || c == ',' || c == '\x5d' || c == '\x7d' || c == '%' || c == '@' ||
      c == '\x60'
  return String.ofList cs

def isUriChar (c : Char) : Bool :=
  isNameChar c || c == ';' || c == '/' || c == '?' || c == ':' || c == '@' || c == '&' ||
    c == '=' || c == '+' || c == '$' || c == ',' || c == '.' || c == '!' || c == '~' ||
    c == '*' || c == '\x27' || c == '(' || c == ')' || c == '\x5b' || c == '\x5d'

/-- The bytes of the percent escapes ahead. -/
def escapedBytes : Nat → List UInt8 → Scan (List UInt8)
  | 0, out => return out
  | steps + 1, out => do
    if (← peek) ≠ some '%' then return out
    skip 1
    let digits := ((← get).rest.take 2).takeWhile isHexDigit
    touch (min digits.length 1)
    if digits.length ≠ 2 then malformed
    skip 2
    escapedBytes steps (out ++ [UInt8.ofNat (digitsValue 16 digits)])

/-- The characters of a suffix with its percent escapes replaced. -/
def uriChars : Nat → List Char → Scan (List Char)
  | 0, out => return out
  | steps + 1, out => do
    let run ← takeWhile isUriChar
    let out := out ++ run
    if (← peek) == some '%' then
      match Text.decodeStrict? (← escapedBytes (← remaining) []) with
      | some cs => uriChars steps (out ++ cs)
      | none => malformed
    else return out

/-- A suffix; at least one character or escape stands in it. -/
def uri : Scan String := do
  let first ← peek
  if !first.any (fun c => isUriChar c || c == '%') then malformed
  return String.ofList (← uriChars ((← remaining) + 1) [])

/-- A handle: an exclamation mark, or a name between two of them. -/
def handle : Scan String := do
  if (← peek) ≠ some '!' then malformed
  skip 1
  if (← peek) == some ' ' then return "!"
  let cs ← takeWhile isNameChar
  if (← peek) ≠ some '!' then malformed
  skip 1
  return String.ofList ('!' :: cs ++ ['!'])

/-- Does a second exclamation mark follow within the field? -/
def hasHandle : Scan Bool := do
  let rest := (← get).rest.drop 1
  let body := rest.takeWhile fun c => c ≠ '!' && !endsField (some c)
  return (← peekAt (body.length + 1)) == some '!'

def tag : Scan TagText := do
  let ahead ← peekAt 1
  let tag : TagText ←
    if ahead == some '<' then do
      skip 2
      let suffix ← uri
      if (← peek) ≠ some '>' then malformed
      skip 1
      pure ⟨none, suffix⟩
    else if endsWord ahead then do
      skip 1
      pure ⟨none, "!"⟩
    else if ← hasHandle then do
      let h ← handle
      pure ⟨some h, ← uri⟩
    else do
      skip 1
      pure ⟨some "!", ← uri⟩
  expect endsField
  return tag

def number : Scan Nat := do
  let cs := (← get).rest.takeWhile Char.isDigit
  touch cs.length
  if cs.isEmpty then malformed
  if mostDigits < cs.length then throw (.longInteger cs.length)
  skip cs.length
  return digitsValue 10 cs

/-- A directive line, from its percent sign. -/
def directive : Scan Directive := do
  skip 1
  let word ← name
  expect endsField
  let directive ←
    if word == ['Y', 'A', 'M', 'L'] then do
      skipWhile (· == ' ')
      let major ← number
      if (← peek) ≠ some '.' then malformed
      skip 1
      let _ ← number
      expect endsField
      pure (Directive.version major)
    else if word == ['T', 'A', 'G'] then do
      skipWhile (· == ' ')
      let h ← handle
      if (← peek) ≠ some ' ' then malformed
      skipWhile (· == ' ')
      let meaning ← uri
      expect endsField
      pure (Directive.handle h meaning)
    else do
      skipWhile (!isBreak ·)
      pure Directive.other
  commentLine
  return directive

end Tag

end LineShell.Yaml
