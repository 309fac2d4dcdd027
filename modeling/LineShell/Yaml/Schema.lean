/-
  LineShell/Yaml/Schema.lean
  ==========================
  **The implied types of plain scalars.**

  A plain scalar without a tag is null, a truth value, an integer, a
  floating-point number, a date, a merge mark or a default mark if it is spelled
  like one, and a text otherwise.  Integers may be binary, octal, decimal,
  hexadecimal or sexagesimal.
-/
import LineShell.Yaml.Cursor

namespace LineShell.Yaml

/-! ### Dates -/

/-- The parts of a date as written. -/
structure DateParts where
  year : Nat
  month : Nat
  day : Nat
  /-- Month and day have two digits each. -/
  wide : Bool
  time : Option (Nat × Nat × Nat)
  fraction : List Char
  /-- The offset from universal time in minutes. -/
  offset : Option Int
deriving Repr

namespace DateParts

/-- Between `least` and `most` digits at the front. -/
def digits (least most : Nat) (cs : List Char) : Option (List Char × List Char) :=
  let taken := (cs.takeWhile Char.isDigit).take most
  if least ≤ taken.length then some (taken, cs.drop taken.length) else none

def mark (c : Char) : List Char → Option (List Char)
  | d :: rest => if c = d then some rest else none
  | [] => none

/-- The offset at the end, after blanks; nothing else may follow it. -/
def zone (cs : List Char) : Option (Option Int) :=
  match cs.dropWhile fun c => c == ' ' || c == '\t' with
  | [] => if cs.isEmpty then some none else none
  | ['Z'] => some (some 0)
  | c :: rest =>
    if c = '+' ∨ c = '-' then do
      let (hour, rest) ← digits 1 2 rest
      let minute ← match rest with
        | [] => some []
        | _ => do
          let (minute, rest) ← digits 2 2 (← mark ':' rest)
          if rest.isEmpty then some minute else none
      let total : Int := digitsValue 10 hour * 60 + digitsValue 10 minute
      some (some (if c = '-' then -total else total))
    else none

def separator : List Char → Option (List Char)
  | 'T' :: rest => some rest
  | 't' :: rest => some rest
  | c :: rest =>
    if c = ' ' ∨ c = '\t' then some (rest.dropWhile fun c => c == ' ' || c == '\t') else none
  | [] => none

/-- The parts of a date, with or without a time. -/
def parse? (cs : List Char) : Option DateParts := do
  let (year, cs) ← digits 4 4 cs
  let (month, cs) ← digits 1 2 (← mark '-' cs)
  let (day, cs) ← digits 1 2 (← mark '-' cs)
  let y := digitsValue 10 year
  let m := digitsValue 10 month
  let d := digitsValue 10 day
  let wide := month.length == 2 && day.length == 2
  if cs.isEmpty then some ⟨y, m, d, wide, none, [], none⟩
  else
    let (hour, cs) ← digits 1 2 (← separator cs)
    let (minute, cs) ← digits 2 2 (← mark ':' cs)
    let (second, cs) ← digits 2 2 (← mark ':' cs)
    let (fraction, cs) := match cs with
      | '.' :: rest => (rest.takeWhile Char.isDigit, rest.dropWhile Char.isDigit)
      | cs => ([], cs)
    let offset ← zone cs
    some ⟨y, m, d, wide,
      some (digitsValue 10 hour, digitsValue 10 minute, digitsValue 10 second), fraction, offset⟩

end DateParts

namespace Schema

/-! ### Spellings -/

def unsigned : List Char → List Char
  | '+' :: rest => rest
  | '-' :: rest => rest
  | cs => cs

/-- Is the list not empty and all of one class? -/
def allOf (p : Char → Bool) (cs : List Char) : Bool := !cs.isEmpty && cs.all p

def isDigitOrLine (c : Char) : Bool := c.isDigit || c == '_'

/-- Digits and underscores after a first digit. -/
def isNumeral (cs : List Char) : Bool :=
  cs.head?.any Char.isDigit && cs.all isDigitOrLine

/-- Groups of one or two digits below sixty, each after a colon. -/
def isSixties : List Char → Bool
  | ':' :: a :: ':' :: rest => a.isDigit && isSixties (':' :: rest)
  | ':' :: a :: b :: ':' :: rest => '0' ≤ a && a ≤ '5' && b.isDigit && isSixties (':' :: rest)
  | [':', a] => a.isDigit
  | [':', a, b] => '0' ≤ a && a ≤ '5' && b.isDigit
  | _ => false

/-- A numeral and groups after it. -/
def isSexagesimal (cs : List Char) : Bool :=
  isNumeral (cs.takeWhile (· ≠ ':')) && isSixties (cs.dropWhile (· ≠ ':'))

def isInteger (cs : List Char) : Bool :=
  let cs := unsigned cs
  match cs with
  | '0' :: 'b' :: rest => allOf (fun c => c == '0' || c == '1' || c == '_') rest
  | '0' :: 'x' :: rest => allOf (fun c => isHexDigit c || c == '_') rest
  | ['0'] => true
  | '0' :: rest => allOf (fun c => ('0' ≤ c && c ≤ '7') || c == '_') rest
  | _ => isNumeral cs || isSexagesimal cs

/-- An exponent part with its sign, or nothing. -/
def isExponent : List Char → Bool
  | [] => true
  | e :: sign :: rest =>
    (e == 'e' || e == 'E') && (sign == '+' || sign == '-') && allOf Char.isDigit rest
  | _ => false

/-- Digits and underscores followed at most by an exponent part. -/
def isFraction (cs : List Char) : Bool := isExponent (cs.dropWhile isDigitOrLine)

def isFloat (cs : List Char) : Bool :=
  let body := unsigned cs
  let whole := body.takeWhile (· ≠ '.')
  match body.dropWhile (· ≠ '.') with
  | '.' :: fraction =>
    (isNumeral whole && isFraction fraction) ||
      (isSexagesimal whole && fraction.all isDigitOrLine) ||
      (cs.head? == some '.' && fraction.head?.any Char.isDigit && isFraction fraction) ||
      (whole.isEmpty && ["inf", "Inf", "INF"].contains (String.ofList fraction)) ||
      (cs.head? == some '.' && ["nan", "NaN", "NAN"].contains (String.ofList fraction))
  | _ => false

def truthWords : List String :=
  ["yes", "Yes", "YES", "no", "No", "NO", "true", "True", "TRUE", "false", "False", "FALSE",
   "on", "On", "ON", "off", "Off", "OFF"]

def nullWords : List String := ["~", "null", "Null", "NULL", ""]

/-- The spelling of a date: a full date, or any date with a time. -/
def isDate (cs : List Char) : Bool :=
  match DateParts.parse? cs with
  | some d => d.wide || d.time.isSome
  | none => false

/-! ### Tags -/

/-- What all standard tags start with. -/
def standard : String := "tag:yaml.org,2002:"

def textTag : String := standard ++ "str"
def sequenceTag : String := standard ++ "seq"
def mappingTag : String := standard ++ "map"
def nullTag : String := standard ++ "null"
def truthTag : String := standard ++ "bool"
def integerTag : String := standard ++ "int"
def floatTag : String := standard ++ "float"
def binaryTag : String := standard ++ "binary"
def dateTag : String := standard ++ "timestamp"
def setTag : String := standard ++ "set"
def orderedTag : String := standard ++ "omap"
def pairsTag : String := standard ++ "pairs"
def mergeTag : String := standard ++ "merge"
def defaultTag : String := standard ++ "value"

/-- A line feed at the end of a text is overlooked when its type is looked for,
    unless it is the whole text. -/
def withoutFinalBreak (cs : List Char) : List Char :=
  if cs.getLast? = some '\n' ∧ cs ≠ ['\n'] then cs.dropLast else cs

/-- The tag that a plain scalar implies. -/
def plainTag (text : Text) : String :=
  match text.chars? with
  | none => textTag
  | some cs =>
    let cs := withoutFinalBreak cs
    let word := String.ofList cs
    if truthWords.contains word then truthTag
    else if isFloat cs then floatTag
    else if isInteger cs then integerTag
    else if word == "<<" then mergeTag
    else if nullWords.contains word then nullTag
    else if isDate cs then dateTag
    else if word == "=" then defaultTag
    else if word == "!" || word == "&" || word == "*" then standard ++ "yaml"
    else textTag

end Schema

end LineShell.Yaml
