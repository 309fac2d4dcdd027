/-
  LineShell/Yaml/Plain.lean
  =========================
  **Plain scalars.**

  A plain scalar has no quotes.  It ends at a colon before a blank, at a number
  sign after one and, inside brackets, at their punctuation.  It goes on over line
  breaks, which are folded, as long as its lines are indented more than the
  collection around it.
-/
import LineShell.Yaml.Cursor

namespace LineShell.Yaml.Plain

open Scan

def isFlowMark (c : Char) : Bool :=
  c == ',' || c == '\x5b' || c == '\x5d' || c == '\x7b' || c == '\x7d'

/-- The length of the run of characters before a blank or an end of the scalar. -/
def runLength (inFlow : Bool) : List Char → Nat
  | [] => 0
  | c :: rest =>
    let colonEnds := c == ':' && (endsWord rest.head? || (inFlow && rest.head?.any isFlowMark))
    if endsWord (some c) || colonEnds || (inFlow && (isFlowMark c || c == '?')) then 0
    else runLength inFlow rest + 1

/-- The breaks of blank lines after the breaks `out`, the last of which comes first;
    nothing if a document marker follows. -/
def blankLines : Nat → List Char → Scan (Option (List Char))
  | 0, out => return some out.reverse
  | steps + 1, out => do
    skipWhile (· == ' ')
    match ← lineBreak with
    | none => return some out.reverse
    | some c =>
      if ← atDocumentMarker then return none
      blankLines steps (c :: out)

/-- The blanks after a run, and whether a line ended there.  They are empty where
    the scalar cannot go on. -/
def gap : Scan (List Char × Bool) := do
  let blanks ← takeWhile (· == ' ')
  match ← lineBreak with
  | none => return (blanks, false)
  | some c =>
    if ← atDocumentMarker then return ([], true)
    match ← blankLines ((← remaining) + 1) [] with
    | none => return ([], true)
    | some more =>
      if c ≠ '\n' then return (c :: more, true)
      else if more.isEmpty then return ([' '], true)
      else return (more, true)

/-- The runs of a scalar after the pieces `out`, the last of which comes first, and
    whether a line ended after the last run.  `indent` is the least column at which
    the scalar can go on. -/
def runs (inFlow : Bool) (indent : Int) :
    Nat → List (List Char) → List Char → Bool → Scan (List (List Char) × Bool)
  | 0, out, _, broke => return (out, broke)
  | steps + 1, out, pending, broke => do
    if (← peek) == some '#' then return (out, broke)
    let length := runLength inFlow (← get).rest
    -- a colon ends the run by what follows it
    if (← peekAt length) == some ':' then touch (length + 1)
    if length = 0 then return (out, broke)
    let run := (← get).rest.take length
    skip length
    let out := run :: pending :: out
    let (blanks, broke) ← gap
    let column ← column
    if blanks.isEmpty || (← peek) == some '#' || (!inFlow && (column : Int) < indent) then
      return (out, broke)
    runs inFlow indent steps out blanks broke

/-- A plain scalar, and whether a line ended after it. -/
def scalar (inFlow : Bool) (indent : Int) : Scan (List Char × Bool) := do
  let (pieces, broke) ← runs inFlow indent ((← remaining) + 1) [] [] false
  return (pieces.reverse.flatten, broke)

end LineShell.Yaml.Plain
