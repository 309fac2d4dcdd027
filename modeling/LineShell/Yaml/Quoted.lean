/-
  LineShell/Yaml/Quoted.lean
  ==========================
  **Quoted scalars.**

  A single-quoted scalar writes its quote twice.  A double-quoted one has escapes
  after a backslash: single letters, code points in hexadecimal, and an escaped
  line break that joins two lines without a space.  In both, a line break between
  words is folded: one break becomes a space, and each further one is kept.
-/
import LineShell.Yaml.Cursor

namespace LineShell.Yaml.Quoted

open Scan

def letterEscape (c : Char) : Option Char :=
  if c == '0' then some '\x00'
  else if c == 'a' then some '\x07'
  else if c == 'b' then some '\x08'
  else if c == 't' || c == '\t' then some '\t'
  else if c == 'n' then some '\n'
  else if c == 'v' then some '\x0b'
  else if c == 'f' then some '\x0c'
  else if c == 'r' then some '\r'
  else if c == 'e' then some '\x1b'
  else if c == ' ' || c == '\x22' || c == '\\' || c == '/' then some c
  else if c == 'N' then some '\x85'
  else if c == '_' then some '\xa0'
  else if c == 'L' then some '\u2028'
  else if c == 'P' then some '\u2029'
  else none

/-- The number of digits after the letter of a hexadecimal escape. -/
def escapeWidth (c : Char) : Option Nat :=
  if c == 'x' then some 2 else if c == 'u' then some 4 else if c == 'U' then some 8 else none

/-- The symbol of a code point, which has to be one. -/
def symbolOfCode (code : Nat) : Except DocumentFault Symbol :=
  match Symbol.ofCode? code with
  | some s => .ok s
  | none => .error (if code < 0x80000000 then .codePoint else .wideCodePoint)

/-- The blank lines that follow a break, as their breaks, after the breaks `out`, the
    last of which comes first. -/
def breaksAfter : Nat → Text → Scan Text
  | 0, out => return out.reverse
  | steps + 1, out => do
    if ← atDocumentMarker then malformed
    skipWhile fun c => c == ' ' || c == '\t'
    match ← lineBreak with
    | some c => breaksAfter steps (.char c :: out)
    | none => return out.reverse

/-- The blank lines that follow a break, as their breaks. -/
def breaks : Scan Text := do breaksAfter ((← remaining) + 1) []

def escape : Scan Text := do
  match ← peek with
  | none => malformed
  | some c =>
    match letterEscape c, escapeWidth c with
    | some meaning, _ =>
      skip 1
      return [.char meaning]
    | none, some width =>
      skip 1
      let digits := ((← get).rest.take width).takeWhile isHexDigit
      touch (min digits.length (width - 1))
      if digits.length ≠ width then malformed
      let symbol ← symbolOfCode (digitsValue 16 digits)
      skip width
      return [symbol]
    | none, none =>
      if !isBreak c then malformed
      let _ ← lineBreak
      breaks

/-- A character that stands for itself between quotes. -/
def isOrdinary (c : Char) : Bool :=
  !(c == '\x27' || c == '\x22' || c == '\\' || endsWord (some c))

/-- The symbols up to a space, a break or the closing quote, after the pieces `out`,
    the last of which comes first. -/
def solid (double : Bool) : Nat → List Text → Scan (List Text)
  | 0, out => return out
  | steps + 1, out => do
    let run ← takeWhile isOrdinary
    let out := run.map .char :: out
    match ← peek with
    | none => return out
    | some c =>
      if !double && c == '\x27' && (← peekAt 1) == some '\x27' then
        skip 2
        solid double steps ([.char c] :: out)
      else if (double && c == '\x27') || (!double && (c == '\x22' || c == '\\')) then
        skip 1
        solid double steps ([.char c] :: out)
      else if double && c == '\\' then
        skip 1
        let meaning ← escape
        solid double steps (meaning :: out)
      else return out

/-- The spaces between words: kept within a line, folded at its end. -/
def spaces : Scan Text := do
  let blanks ← takeWhile fun c => c == ' ' || c == '\t'
  if (← peek).isNone then malformed
  match ← lineBreak with
  | none => return blanks.map .char
  | some c =>
    let more ← breaks
    if c ≠ '\n' then return .char c :: more
    else if more.isEmpty then return [.char ' ']
    else return more

/-- Words and spaces up to the closing quote, after the pieces `out`, the last of
    which comes first. -/
def body (double : Bool) : Nat → List Text → Scan (List Text)
  | 0, _ => malformed
  | steps + 1, out => do
    let out ← solid double (← remaining) out
    if (← peek) == some (if double then '\x22' else '\x27') then
      skip 1
      return out
    else
      let gap ← spaces
      body double steps (gap :: out)

/-- A quoted scalar, from its opening quote. -/
def scalar (double : Bool) : Scan Text := do
  skip 1
  return (← body double ((← remaining) + 1) []).reverse.flatten

end LineShell.Yaml.Quoted
