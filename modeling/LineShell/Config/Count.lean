/-
  LineShell/Config/Count.lean
  ===========================
  **Counts in a configuration.**

  A count may be given as an integer, as a truth value (which counts as one or
  zero), as a number without a fraction, or as a decimal text.

  A text is first read as a plain decimal: an optional minus and digits without a
  superfluous zero.  Where that fails it is cleaned and read once more.  Cleaning
  drops the spaces around it, a plus sign, zeros in front, a fraction of zeros, and
  single underscores between digits.  Zeros in front are dropped up to a first
  other digit or a minus sign, so a minus may follow zeros.
-/
import LineShell.Config.Value
import LineShell.Text.Digit
import LineShell.Text.Encoding

namespace LineShell

/-- Why a value is no count. -/
inductive CountFault where
  | wrongType
  | undecodable
  | malformed
  | tooLarge
  | fractional
  | notFinite
  | notPositive (n : Int)
deriving DecidableEq, Repr

def decimalValue (cs : List Char) : Nat := cs.foldl (fun acc c => acc * 10 + (c.toNat - 48)) 0

namespace Count

/-! ### Plain decimals -/

/-- Split a minus sign from a text. -/
def splitMinus : List Char → Bool × List Char
  | '-' :: rest => (true, rest)
  | cs => (false, cs)

/-- The integer of a sign and a magnitude. -/
def signed (negative : Bool) (n : Nat) : Int := if negative then -(n : Int) else n

/-- The integer that a plain decimal spells.  Digits that are too many are found
    before anything that may follow them. -/
def plainDecimal (cs : List Char) : Except CountFault Int :=
  let (negative, body) := splitMinus cs
  let digits := body.takeWhile Char.isDigit
  if digits.isEmpty then .error .malformed
  else if digits.head? = some '0' then
    if body = ['0'] then .ok 0 else .error .malformed
  else if mostDigits < digits.length then .error .tooLarge
  else if body ≠ digits then .error .malformed
  else .ok (signed negative (decimalValue digits))

/-! ### Cleaning -/

/-- Drop one plus sign, which no minus sign may follow. -/
def dropPlus : List Char → Option (List Char)
  | '+' :: '-' :: _ => none
  | '+' :: rest => some rest
  | cs => some cs

/-- Does a number start here, with a digit other than zero or with a minus? -/
def startsNumber (c : Char) : Bool := ('1' ≤ c && c ≤ '9') || c == '-'

/-- Drop the zeros and underscores in front of the number after a first zero; one
    of them stays in front of a point or of the end. -/
def afterZeros (last : Char) : List Char → Option (List Char)
  | [] => some [last]
  | c :: rest =>
    if c = '0' ∨ c = '_' then afterZeros c rest
    else if startsNumber c then some (c :: rest)
    else if c = '.' then some (last :: c :: rest)
    else none

def dropZeros : List Char → Option (List Char)
  | [] => none
  | c :: rest =>
    if c = '0' then afterZeros '0' rest else if startsNumber c then some (c :: rest) else none

/-- Drop a fraction that consists of zeros. -/
def dropFraction (cs : List Char) : List Char :=
  match cs.dropWhile (· ≠ '.') with
  | _ :: fraction =>
    if !fraction.isEmpty && fraction.all (· == '0') then cs.takeWhile (· ≠ '.') else cs
  | [] => cs

def doubledUnderscore : List Char → Bool
  | '_' :: '_' :: _ => true
  | _ :: rest => doubledUnderscore rest
  | [] => false

/-- Drop the underscores between digits; where they are misplaced they stay. -/
def dropUnderscores (cs : List Char) : List Char :=
  if cs.head? = some '_' ∨ cs.getLast? = some '_' ∨ doubledUnderscore cs then cs
  else cs.filter (· ≠ '_')

/-- The text to be read as a plain decimal once it is cleaned. -/
def cleaned (cs : List Char) : Option (List Char) := do
  let cs ← dropPlus (trimSpaces cs)
  let (negative, body) := splitMinus cs
  let digits := dropUnderscores (dropFraction (← dropZeros body))
  return if negative then '-' :: digits else digits

/-- The integer that a decimal text spells. -/
def ofChars (cs : List Char) : Except CountFault Int :=
  match plainDecimal cs with
  | .ok n => .ok n
  | .error .tooLarge => .error .tooLarge
  | .error _ =>
    match (cleaned cs).map plainDecimal with
    | some (.ok n) => .ok n
    | _ => .error .malformed

/-! ### Values -/

/-- The magnitude that a number has to stay below, 2^63. -/
def wordLimit : Nat := 0x8000000000000000

/-- The integer that a number is; its magnitude has to be less than 2^63. -/
def ofFloat (x : Binary64) : Except CountFault Int :=
  match x with
  | .finite _ _ _ =>
    match x.toInt? with
    | none => .error .fractional
    | some n => if n.natAbs < wordLimit then .ok n else .error .tooLarge
  | _ => .error .notFinite

/-- The integer that a value stands for. -/
def ofValue : Value → Except CountFault Int
  | .int n => .ok n
  | .bool b => .ok (if b then 1 else 0)
  | .float x => ofFloat x
  | .text t =>
    match t.chars? with
    | some cs => ofChars cs
    | none => .error .undecodable
  | .bytes content =>
    match Text.decodeStrict? content with
    | some cs => ofChars cs
    | none => .error .malformed
  | _ => .error .wrongType

def positive (v : Value) : Except CountFault Int := do
  let n ← ofValue v
  if 0 < n then .ok n else .error (.notPositive n)

end Count

end LineShell
