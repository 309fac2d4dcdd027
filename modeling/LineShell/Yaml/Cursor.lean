/-
  LineShell/Yaml/Cursor.lean
  ==========================
  **Reading a document character by character.**

  A cursor is what is left of a source, with the position reached.  `Scan` is an
  action that moves a cursor and may fail; it is built from a handful of steps:
  look ahead, take characters while a test holds, take a line break.  A step that
  looks where the source cannot be read ends in the fault of the source.
-/
import LineShell.Yaml.Source

namespace LineShell.Yaml

/-! ### Characters -/

def isBreak (c : Char) : Bool :=
  c == '\r' || c == '\n' || c == '\x85' || c == '\u2028' || c == '\u2029'

def endsLine : Option Char → Bool
  | none => true
  | some c => isBreak c

/-- Does a field end here, at a space or with the line? -/
def endsField : Option Char → Bool
  | none => true
  | some c => c == ' ' || isBreak c

/-- Does a word end here, at a space, a tab or with the line? -/
def endsWord : Option Char → Bool
  | none => true
  | some c => c == ' ' || c == '\t' || isBreak c

/-- A character of an anchor, a directive or a tag handle. -/
def isNameChar (c : Char) : Bool :=
  ('0' ≤ c && c ≤ '9') || ('A' ≤ c && c ≤ 'Z') || ('a' ≤ c && c ≤ 'z') || c == '-' || c == '_'

def isHexDigit (c : Char) : Bool :=
  ('0' ≤ c && c ≤ '9') || ('A' ≤ c && c ≤ 'F') || ('a' ≤ c && c ≤ 'f')

/-- The value of a digit in a base up to sixteen. -/
def digitValue (c : Char) : Nat :=
  if c ≤ '9' then c.toNat - 48 else if c ≤ 'F' then c.toNat - 55 else c.toNat - 87

/-- The number that digits spell in a base. -/
def digitsValue (base : Nat) (cs : List Char) : Nat :=
  cs.foldl (fun acc c => acc * base + digitValue c) 0

/-! ### Cursors -/

/-- What is left of a document, and the position reached. -/
structure Cursor where
  rest : List Char
  ending : Option DocumentFault
  /-- The number of characters before the ending, those read included. -/
  size : Nat
  index : Nat
  line : Nat
  column : Nat

namespace Cursor

def start (source : Source) : Cursor where
  rest := source.chars
  ending := source.ending
  size := source.chars.length
  index := 0
  line := 0
  column := 0

def remaining (c : Cursor) : Nat := c.size - c.index

/-- Move over one character.  A carriage return before a line feed does not end
    the line, and a byte order mark has no width. -/
def next (c : Cursor) : Cursor :=
  match c.rest with
  | [] => c
  | ch :: rest =>
    let moved := { c with rest, index := c.index + 1 }
    if isBreak ch && !(ch == '\r' && rest.head? == some '\n') then
      { moved with line := c.line + 1, column := 0 }
    else if ch == '\ufeff' then moved
    else { moved with column := c.column + 1 }

def advance : Nat → Cursor → Cursor
  | 0, c => c
  | n + 1, c => advance n c.next

end Cursor

/-! ### Scanning -/

/-- An action that moves a cursor and may fail. -/
abbrev Scan := StateT Cursor (Except DocumentFault)

namespace Scan

def malformed {α : Type} : Scan α := throw .malformed

/-- Make sure that the character `n` places ahead, or the end of the document
    before it, can be read. -/
def touch (n : Nat) : Scan Unit := do
  let c ← get
  match c.ending with
  | none => return ()
  | some f => if (c.rest.drop n).isEmpty then throw f

def peekAt (n : Nat) : Scan (Option Char) := do
  touch n
  return (← get).rest[n]?

def peek : Scan (Option Char) := peekAt 0

/-- How much is left: more steps than this are never needed. -/
def remaining : Scan Nat := return (← get).remaining

def column : Scan Nat := return (← get).column

/-- Move over so many characters; the one after them has to be readable. -/
def skip (n : Nat) : Scan Unit := do
  touch n
  modify (Cursor.advance n)

/-- Take the characters up to the first one that fails the test. -/
def takeWhile (p : Char → Bool) : Scan (List Char) := do
  let taken := (← get).rest.takeWhile p
  skip taken.length
  return taken

/-- Move over the characters up to the first one that fails the test. -/
def skipWhile (p : Char → Bool) : Scan Unit := do
  let _ ← takeWhile p

/-- Take a line break.  All breaks count as a line feed, but for the line and
    paragraph separators, which stay as they are. -/
def lineBreak : Scan (Option Char) := do
  match ← peek with
  | none => return none
  | some c =>
    if c == '\r' && (← peekAt 1) == some '\n' then
      skip 2
      return some '\n'
    else if c == '\r' || c == '\n' || c == '\x85' then
      skip 1
      return some '\n'
    else if isBreak c then
      skip 1
      return some c
    else return none

/-- Go on only if the character ahead passes the test. -/
def expect (p : Option Char → Bool) : Scan Unit := do
  if !p (← peek) then malformed

/-- Does a marker between documents stand here: three dashes or three dots, and
    the end of a word? -/
def atDocumentMarker : Scan Bool := do
  touch 2
  let mark := (← get).rest.take 3
  if mark == ['-', '-', '-'] || mark == ['.', '.', '.'] then return endsWord (← peekAt 3)
  else return false

/-- Skip the rest of a line that may hold only a comment. -/
def commentLine : Scan Unit := do
  skipWhile (· == ' ')
  if (← peek) == some '#' then skipWhile (!isBreak ·)
  expect endsLine
  let _ ← lineBreak

end Scan

end LineShell.Yaml
