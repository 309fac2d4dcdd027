/-
  LineShell/Config/Date.lean
  ==========================
  **Calendar dates and times.**

  A date is a valid day of the proleptic Gregorian calendar, and a moment is a
  date with a time of day and, where it is known, the offset of its zone from
  universal time.  The functions that build them refuse every value out of range
  and say which one.
-/
import LineShell.Text.Symbol

namespace LineShell

structure Date where
  year : Nat
  month : Nat
  day : Nat
deriving DecidableEq, Repr

/-- A moment; the offset is in minutes. -/
structure Moment where
  date : Date
  hour : Nat
  minute : Nat
  second : Nat
  microsecond : Nat
  offset : Option Int
deriving DecidableEq, Repr

/-- Why a date or a moment does not exist. -/
inductive DateFault where
  | year (year : Nat)
  | month
  | day
  | hour
  | minute
  | second
  | offset (minutes : Int)
deriving DecidableEq, Repr

/-- A leap year is divisible by four, but not by a hundred unless by four
    hundred. -/
def isLeapYear (year : Nat) : Bool :=
  year % 4 == 0 && (year % 100 != 0 || year % 400 == 0)

/-- The number of days in a month. -/
def daysInMonth (year month : Nat) : Nat :=
  if month = 2 then (if isLeapYear year then 29 else 28)
  else if month = 4 ∨ month = 6 ∨ month = 9 ∨ month = 11 then 30
  else 31

/-- A length of time as whole days and the seconds beyond them, from an offset in
    minutes. -/
def daysAndSeconds (minutes : Int) : Int × Int :=
  (Int.fdiv minutes 1440, Int.fmod minutes 1440 * 60)

/-- A length of time in the form that names its parts. -/
def displayDuration (minutes : Int) : Text :=
  let (days, seconds) := daysAndSeconds minutes
  let part (name : String) (n : Int) : List Text :=
    if n = 0 then [] else [Text.ofString name ++ Text.ofInt n]
  let parts := part "days=" days ++ part "seconds=" seconds
  let parts := if parts.isEmpty then [Text.ofString "0"] else parts
  Text.ofString "datetime.timedelta(" ++ Text.joinWith (Text.ofString ", ") parts ++
    Text.ofString ")"

def DateFault.message : DateFault → Text
  | .year y => Text.ofString "year " ++ Text.ofNat y ++ Text.ofString " is out of range"
  | .month => Text.ofString "month must be in 1..12"
  | .day => Text.ofString "day is out of range for month"
  | .hour => Text.ofString "hour must be in 0..23"
  | .minute => Text.ofString "minute must be in 0..59"
  | .second => Text.ofString "second must be in 0..59"
  | .offset m =>
    Text.ofString
        "offset must be a timedelta strictly between -timedelta(hours=24) and timedelta(hours=24), not " ++
      displayDuration m ++ Text.ofString "."

def Date.make (year month day : Nat) : Except DateFault Date :=
  if year < 1 ∨ 9999 < year then .error (.year year)
  else if month < 1 ∨ 12 < month then .error .month
  else if day < 1 ∨ daysInMonth year month < day then .error .day
  else .ok ⟨year, month, day⟩

/-- The moment with these parts; the offset is judged first. -/
def Moment.make (year month day hour minute second microsecond : Nat) (offset : Option Int) :
    Except DateFault Moment := do
  match offset with
  | some m => if m ≤ -1440 ∨ 1440 ≤ m then throw (.offset m)
  | none => pure ()
  let date ← Date.make year month day
  if 23 < hour then throw .hour
  if 59 < minute then throw .minute
  if 59 < second then throw .second
  pure ⟨date, hour, minute, second, microsecond, offset⟩

/-! ### Instants -/

/-- The number of days before a date since the first day of year one. -/
def Date.dayNumber (d : Date) : Nat :=
  let years := d.year - 1
  let beforeMonth := (List.range (d.month - 1)).foldl
    (fun days m => days + daysInMonth d.year (m + 1)) 0
  365 * years + years / 4 - years / 100 + years / 400 + beforeMonth + (d.day - 1)

/-- The microseconds before a moment since the first day of year one, in universal
    time where the offset is known. -/
def Moment.instant (m : Moment) : Int :=
  let minutes : Int := m.date.dayNumber * 1440 + m.hour * 60 + m.minute
  ((minutes - m.offset.getD 0) * 60 + m.second) * 1000000 + m.microsecond

/-- Are two moments the same?  One whose offset is known and one whose offset is not
    never are. -/
def Moment.isSame (m n : Moment) : Bool :=
  m.offset.isSome == n.offset.isSome && m.instant == n.instant

/-! ### Texts -/

/-- A number with at least `width` digits. -/
def padded (width n : Nat) : Text :=
  let digits := (Nat.repr n).toList
  (List.replicate (width - digits.length) '0' ++ digits).map .char

/-- The date as year, month and day. -/
def Date.text (d : Date) : Text :=
  padded 4 d.year ++ Text.ofString "-" ++ padded 2 d.month ++ Text.ofString "-" ++ padded 2 d.day

/-- The offset with its sign, hours and minutes. -/
def offsetText (minutes : Int) : Text :=
  Text.ofString (if minutes < 0 then "-" else "+") ++ padded 2 (minutes.natAbs / 60) ++
    Text.ofString ":" ++ padded 2 (minutes.natAbs % 60)

/-- The moment as date and time, with a fraction and an offset where it has
    them. -/
def Moment.text (m : Moment) : Text :=
  m.date.text ++ Text.ofString " " ++ padded 2 m.hour ++ Text.ofString ":" ++ padded 2 m.minute ++
    Text.ofString ":" ++ padded 2 m.second ++
    (if m.microsecond = 0 then [] else Text.ofString "." ++ padded 6 m.microsecond) ++
    (match m.offset with
      | none => []
      | some o => offsetText o)

def displayParts (name : String) (parts : List Text) : Text :=
  Text.ofString name ++ Text.ofString "(" ++ Text.joinWith (Text.ofString ", ") parts ++
    Text.ofString ")"

/-- The form of a date inside a list. -/
def Date.display (d : Date) : Text :=
  displayParts "datetime.date" [Text.ofNat d.year, Text.ofNat d.month, Text.ofNat d.day]

/-- The form of a moment inside a list: seconds and their fraction are left out
    when they are zero. -/
def Moment.display (m : Moment) : Text :=
  let seconds :=
    if m.microsecond ≠ 0 then [Text.ofNat m.second, Text.ofNat m.microsecond]
    else if m.second ≠ 0 then [Text.ofNat m.second]
    else []
  let zone := match m.offset with
    | none => []
    | some o =>
      [Text.ofString "tzinfo=" ++
        (if o = 0 then Text.ofString "datetime.timezone.utc"
          else Text.ofString "datetime.timezone(" ++ displayDuration o ++ Text.ofString ")")]
  displayParts "datetime.datetime"
    ([Text.ofNat m.date.year, Text.ofNat m.date.month, Text.ofNat m.date.day, Text.ofNat m.hour,
      Text.ofNat m.minute] ++ seconds ++ zone)

end LineShell
