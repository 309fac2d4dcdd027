/-
  LineShell/Yaml/Block.lean
  =========================
  **Block scalars.**

  A block scalar is a run of indented lines after a header.  The header gives the
  style (literal or folded), how the final breaks are treated, and the indentation
  if the first line does not.  In the folded style a break between two lines that
  do not start with a blank becomes a space.
-/
import LineShell.Yaml.Cursor

namespace LineShell.Yaml.Block

open Scan

/-- What becomes of the breaks at the end. -/
inductive Chomping where
  | strip
  | clip
  | keep
deriving DecidableEq, Repr

/-- The chomping mark ahead, if there is one. -/
def chompingMark : Scan (Option Chomping) := do
  match ← peek with
  | some '+' =>
    skip 1
    return some .keep
  | some '-' =>
    skip 1
    return some .strip
  | _ => return none

/-- The indentation digit ahead, if there is one; it is not zero. -/
def indentMark : Scan (Option Nat) := do
  match ← peek with
  | some c =>
    if c.isDigit then
      if c == '0' then malformed
      skip 1
      return some (digitValue c)
    else return none
  | none => return none

/-- The marks of a header, in either order. -/
def header : Scan (Chomping × Option Nat) := do
  let (chomping, indent) ← do
    match ← chompingMark with
    | some chomping => pure (some chomping, ← indentMark)
    | none =>
      match ← indentMark with
      | some n => pure (← chompingMark, some n)
      | none => pure (none, none)
  expect endsField
  commentLine
  return (chomping.getD .clip, indent)

def skipIndent (column : Nat) : Scan Unit := do
  let here ← Scan.column
  let available := ((← get).rest.takeWhile (· == ' ')).length
  skip (min available (column - here))

/-- The breaks of the blank lines ahead, each skipped up to a column, after the breaks
    `out`, the last of which comes first. -/
def blankLinesAfter (column : Nat) : Nat → List Char → Scan (List Char)
  | 0, out => return out.reverse
  | steps + 1, out => do
    skipIndent column
    match ← lineBreak with
    | some c => blankLinesAfter column steps (c :: out)
    | none => return out.reverse

/-- The breaks of the blank lines ahead, each skipped up to a column. -/
def blankLines (column : Nat) : Scan (List Char) := do
  blankLinesAfter column ((← remaining) + 1) []

/-- The breaks of the blank lines ahead with the greatest column that spaces reach on
    them or on the line after them.  The breaks `out` and the column `widest` come
    from the lines before. -/
def findIndent : Nat → List Char → Nat → Scan (List Char × Nat)
  | 0, out, widest => return (out.reverse, widest)
  | steps + 1, out, widest => do
    skipWhile (· == ' ')
    let widest := max widest (← column)
    match ← lineBreak with
    | some c => findIndent steps (c :: out) widest
    | none => return (out.reverse, widest)

/-- Does the next line start with a blank? -/
def startsBlank : Option Char → Bool
  | some c => c == ' ' || c == '\t'
  | none => false

/-- The body of a block scalar: its pieces, the last of which comes first, the last
    break, and the breaks of the blank lines at its end. -/
structure Body where
  pieces : List (List Char)
  lineEnd : List Char
  blanks : List Char

/-- The lines at a column after the pieces `out` and the breaks `blanks` of the blank
    lines before them. -/
def lines (folded : Bool) (indent : Nat) : Nat → List (List Char) → List Char → Scan Body
  | 0, out, blanks => return ⟨out, [], blanks⟩
  | steps + 1, out, blanks => do
    let first ← peek
    if (← column) ≠ indent || first.isNone then return ⟨out, [], blanks⟩
    let line ← takeWhile (!isBreak ·)
    let out := line :: blanks :: out
    let lineEnd := (← lineBreak).toList
    let blanks ← blankLines indent
    let next ← peek
    if (← column) ≠ indent || next.isNone then return ⟨out, lineEnd, blanks⟩
    if folded && lineEnd == ['\n'] && !startsBlank first && !startsBlank next then
      lines folded indent steps (if blanks.isEmpty then [' '] :: out else out) blanks
    else lines folded indent steps (lineEnd :: out) blanks

/-- A block scalar, from its style mark; `parent` is the indentation of the
    collection around it. -/
def scalar (folded : Bool) (parent : Int) : Scan (List Char) := do
  skip 1
  let (chomping, increment) ← header
  let least := max (parent + 1) 1
  let (blanks, indent) ← do
    match increment with
    | none =>
      let (blanks, widest) ← findIndent ((← remaining) + 1) [] 0
      pure (blanks, max least.toNat widest)
    | some n =>
      let indent := least.toNat + n - 1
      pure (← blankLines indent, indent)
  let b ← lines folded indent ((← remaining) + 1) [] blanks
  let body := b.pieces.reverse.flatten
  match chomping with
  | .strip => return body
  | .clip => return body ++ b.lineEnd
  | .keep => return body ++ b.lineEnd ++ b.blanks

end LineShell.Yaml.Block
