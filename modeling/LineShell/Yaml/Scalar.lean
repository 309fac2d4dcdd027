/-
  LineShell/Yaml/Scalar.lean
  ==========================
  **The values of typed scalars.**

  The type of a scalar comes from its tag, its value from its text.  An explicit
  tag may stand before any text, so each reader says what is wrong with a text
  that does not fit.
-/
import LineShell.Config.Value
import LineShell.Text.Case
import LineShell.Text.Digit
import LineShell.Text.Encoding
import LineShell.Yaml.Schema

namespace LineShell.Yaml.Scalar

/-- The characters of a text.  A symbol that is none becomes a character that
    belongs to no number. -/
def chars (t : Text) : List Char := t.map fun s => s.char?.getD '\ufffd'

/-- The text of a number without the spaces around it, in ASCII digits. -/
def numeral (t : Text) : List Char := (trimSpaces (chars t)).map asciiDigit

/-- Split a sign from a list of characters. -/
def splitSign : List Char → Bool × List Char
  | '-' :: rest => (true, rest)
  | '+' :: rest => (false, rest)
  | cs => (false, cs)

def splitTextSign : Text → Bool × Text
  | .char '-' :: rest => (true, rest)
  | .char '+' :: rest => (false, rest)
  | t => (false, t)

def withoutUnderscores (t : Text) : Text := t.filter (!Symbol.is '_' ·)

def groups (t : Text) : List Text := Text.cutWhere (Symbol.is ':') t

/-! ### Integers -/

/-- Is the character a digit of a base up to sixteen? -/
def isDigitOf (base : Nat) (c : Char) : Bool := isHexDigit c && digitValue c < base

/-- Drop the mark that names a base in front of digits. -/
def dropBaseMark (base : Nat) (cs : List Char) : List Char :=
  match cs with
  | '0' :: c :: rest =>
    if (base = 2 ∧ (c = 'b' ∨ c = 'B')) ∨ (base = 8 ∧ (c = 'o' ∨ c = 'O')) ∨
        (base = 16 ∧ (c = 'x' ∨ c = 'X')) then rest
    else cs
  | _ => cs

/-- The integer that a text spells in a base: a sign, the mark of the base, and
    digits, between spaces.  Decimal digits that are too many are found before
    anything that may follow them. -/
def integerIn (base : Nat) (t : Text) : Except DocumentFault Int :=
  let (negative, body) := splitSign (numeral t)
  let body := dropBaseMark base body
  let digits := body.takeWhile (isDigitOf base)
  if base = 10 ∧ mostDigits < digits.length then .error (.longInteger digits.length)
  else if digits.isEmpty || digits ≠ body then .error (.integer base t)
  else
    let n : Int := digitsValue base digits
    .ok (if negative then -n else n)

/-- The value of sexagesimal groups. -/
def sixtiesValue (ns : List Int) : Int := ns.foldl (fun acc n => acc * 60 + n) 0

/-- The value of an integer scalar: binary, hexadecimal, octal, sexagesimal or
    decimal, by how it starts. -/
def integer (t : Text) : Except DocumentFault Int := do
  let (negative, body) := splitTextSign (withoutUnderscores t)
  let n ←
    match body with
    | [] => throw .emptyNumber
    | [.char '0'] => pure 0
    | .char '0' :: .char 'b' :: rest => integerIn 2 rest
    | .char '0' :: .char 'x' :: rest => integerIn 16 rest
    | .char '0' :: _ => integerIn 8 body
    | _ =>
      if body.any (Symbol.is ':') then
        let parts ← (groups body).mapM (integerIn 10)
        pure (sixtiesValue parts)
      else integerIn 10 body
  return if negative then -n else n

/-! ### Floating-point numbers -/

/-- The exponent part at the end of a decimal, or nothing. -/
def decimalExponent (cs : List Char) : Option Int :=
  match cs with
  | [] => some 0
  | c :: rest =>
    if c = 'e' ∨ c = 'E' then
      let (negative, digits) := splitSign rest
      if Schema.allOf Char.isDigit digits then
        let n : Int := digitsValue 10 digits
        some (if negative then -n else n)
      else none
    else none

/-- The number that an unsigned decimal spells. -/
def decimal (negative : Bool) (cs : List Char) : Option Binary64 := do
  let whole := cs.takeWhile Char.isDigit
  let cs := cs.dropWhile Char.isDigit
  let (fraction, cs) := match cs with
    | '.' :: rest => (rest.takeWhile Char.isDigit, rest.dropWhile Char.isDigit)
    | cs => ([], cs)
  if whole.isEmpty && fraction.isEmpty then none
  else
    let exponent ← decimalExponent cs
    some (.ofDecimal negative (digitsValue 10 (whole ++ fraction)) (exponent - fraction.length))

/-- The number that a text in lower case spells, between spaces: a decimal, an
    infinity or no number. -/
def floatOf (t : Text) : Except DocumentFault Binary64 :=
  let (negative, body) := splitSign (numeral t)
  let word := String.ofList body
  if word == "inf" || word == "infinity" then .ok (.infinite negative)
  else if word == "nan" then .ok .nan
  else
    match decimal negative body with
    | some x => .ok x
    | none => .error (.float t)

/-- The value of sexagesimal groups, the last one first; `base` is the weight of
    the next group. -/
def sixtiesFloat : Binary64 → Int → List Binary64 → Binary64
  | total, _, [] => total
  | total, base, x :: rest =>
    sixtiesFloat (total.add (x.mul (.ofInt base))) (base * 60) rest

/-- The most sexagesimal groups: the weight of one more would be 60^174, which is
    beyond the floating-point numbers. -/
def mostGroups : Nat := 174

/-- The text of a floating-point scalar as it is read: without underscores and in
    lower case, with its sign apart. -/
def floatParts (t : Text) : Bool × Text := splitTextSign (withoutUnderscores t).lower

/-- Does the text name the number that is none? -/
def namesNaN (t : Text) : Bool := (floatParts t).2 == Text.ofString ".nan"

def float (t : Text) : Except DocumentFault Binary64 := do
  let (negative, body) := floatParts t
  let x ←
    if (withoutUnderscores t).isEmpty then throw .emptyNumber
    else if namesNaN t then return .nan
    else if body == Text.ofString ".inf" then pure (.infinite false)
    else if body.any (Symbol.is ':') then
      let parts ← (groups body).mapM floatOf
      if mostGroups < parts.length then throw .heavyGroup
      pure (sixtiesFloat (.zero false) 1 parts.reverse)
    else floatOf body
  return if negative then x.neg else x

/-! ### Other scalars -/

/-- The value of a truth word in any case. -/
def truth (t : Text) : Except DocumentFault Bool :=
  let word := t.lower
  if ["yes", "true", "on"].any (word == Text.ofString ·) then .ok true
  else if ["no", "false", "off"].any (word == Text.ofString ·) then .ok false
  else .error (.truthValue word)

/-- The first six digits of a fraction of a second, filled up with zeros. -/
def microseconds (fraction : List Char) : Nat :=
  let digits := fraction.take 6
  digitsValue 10 (digits ++ List.replicate (6 - digits.length) '0')

def date (cs : List Char) : Except DocumentFault Value :=
  match DateParts.parse? (Schema.withoutFinalBreak cs) with
  | none => .error .noDate
  | some d =>
    match d.time with
    | none => ((Date.make d.year d.month d.day).map .date).mapError .date
    | some (hour, minute, second) =>
      ((Moment.make d.year d.month d.day hour minute second (microseconds d.fraction)
        d.offset).map .moment).mapError .date

/-- The six bits of a character of a binary scalar. -/
def sixBits (c : Char) : Option Nat :=
  if 'A' ≤ c ∧ c ≤ 'Z' then some (c.toNat - 65)
  else if 'a' ≤ c ∧ c ≤ 'z' then some (c.toNat - 71)
  else if '0' ≤ c ∧ c ≤ '9' then some (c.toNat + 4)
  else if c = '+' then some 62
  else if c = '/' then some 63
  else none

/-- Read six bits after six: `pending` characters of the current group of four
    hold the bits `left` that no byte has taken yet, and `pads` marks of its end
    have been seen.  Other characters are skipped. -/
def groupedBytes : List Char → Nat → Nat → Nat → Option (List UInt8)
  | [], pending, _, _ => if pending = 0 then some [] else none
  | c :: rest, pending, left, pads =>
    if c = '=' then
      if 2 ≤ pending ∧ 4 ≤ pending + pads + 1 then some []
      else groupedBytes rest pending left (if 2 ≤ pending then pads + 1 else pads)
    else
      match sixBits c with
      | none => groupedBytes rest pending left pads
      | some bits =>
        let emit (b : Nat) (pending left : Nat) : Option (List UInt8) :=
          (groupedBytes rest pending left 0).map (UInt8.ofNat b :: ·)
        match pending with
        | 0 => groupedBytes rest 1 bits 0
        | 1 => emit (left * 4 + bits / 16) 2 (bits % 16)
        | 2 => emit (left * 16 + bits / 4) 3 (bits % 4)
        | _ => emit (left * 64 + bits) 0 0

/-- The value of a binary scalar, which is written in ASCII. -/
def binary (text : Text) : Except DocumentFault (List UInt8) :=
  match text.chars? with
  | none => .error .malformed
  | some cs =>
    if !cs.all fun c => c.toNat < 128 then .error .malformed
    else
      match groupedBytes cs 0 0 0 with
      | some bytes => .ok bytes
      | none => .error .malformed

/-- The value of a scalar with a standard tag; the other tags have none. -/
def value (tag : String) (text : Text) : Except DocumentFault Value :=
  if tag == Schema.textTag then .ok (.text text)
  else if tag == Schema.nullTag then .ok .null
  else if tag == Schema.truthTag then (truth text).map .bool
  else if tag == Schema.integerTag then (integer text).map .int
  else if tag == Schema.floatTag then (float text).map .float
  else if tag == Schema.binaryTag then (binary text).map .bytes
  else if tag == Schema.dateTag then date (chars text)
  else .error .malformed

/-- The tags of the scalars that have a value. -/
def tags : List String :=
  [Schema.textTag, Schema.nullTag, Schema.truthTag, Schema.integerTag, Schema.floatTag,
   Schema.binaryTag, Schema.dateTag]

end LineShell.Yaml.Scalar
