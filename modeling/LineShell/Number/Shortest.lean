/-
  LineShell/Number/Shortest.lean
  ==============================
  **The shortest decimal text of a number.**

  The text of a finite number has the fewest significant digits that read back
  as the same number, and among those the digits nearest to it.  The reals that
  read back form an interval around the number, closed when its mantissa is even.
  For a growing count of digits the two neighbours of the number on that decimal
  grid are tested; if any point of the grid lies in the interval, a neighbour
  does.
-/
import LineShell.Number.Binary64
import LineShell.Text.Symbol

namespace LineShell

structure NumberFormat where
  /-- The least exponent of ten of a number without an exponent part. -/
  leastPositional : Int
  /-- The exponent of ten from which on a number has an exponent part. -/
  firstExponential : Int
  /-- The least count of digits in an exponent part. -/
  exponentWidth : Nat

namespace Binary64

structure Ratio where
  num : Nat
  den : Nat

/-- Is the first fraction below the second, or equal to it if `closed`? -/
def Ratio.below (closed : Bool) (a b : Ratio) : Bool :=
  if closed then a.num * b.den ≤ b.num * a.den else a.num * b.den < b.num * a.den

/-- The interval of reals that round to a number. -/
structure Interval where
  low : Ratio
  high : Ratio
  closed : Bool

def Interval.holds (i : Interval) (x : Ratio) : Bool :=
  i.low.below i.closed x && x.below i.closed i.high

/-- `n · 2 ^ e` as a fraction. -/
def ratio (n : Nat) (e : Int) : Ratio := let (a, b) := scale n 1 e; ⟨a, b⟩

/-- The interval around `m · 2 ^ e`: half a unit to each side, but a quarter
    downwards from a power of two, where the numbers below lie closer. -/
def interval (m : Nat) (e : Int) : Interval where
  low := if m = leastFullMantissa ∧ minExponent < e then ratio (4 * m - 1) (e - 2)
    else ratio (2 * m - 1) (e - 1)
  high := ratio (2 * m + 1) (e - 1)
  closed := m % 2 = 0

/-- `n · 10 ^ k` as a fraction. -/
def decimalRatio (n : Nat) (k : Int) : Ratio :=
  match k with
  | .ofNat j => ⟨n * Nat.pow 10 j, 1⟩
  | .negSucc j => ⟨n, Nat.pow 10 (j + 1)⟩

/-- The exponent `p` with `10 ^ (p - 1) ≤ x < 10 ^ p`. -/
def decimalPlace (x : Ratio) : Int :=
  let whole := x.num / x.den
  if 0 < whole then (Nat.toDigits 10 whole).length
  else
    -- below one, count the zeros after the point by inverting
    let inverse := x.den / x.num
    let p : Int := (Nat.toDigits 10 inverse).length
    if x.den ≤ x.num * Nat.pow 10 (p.toNat - 1) then 2 - p else 1 - p

/-- The digits of the nearer of the two neighbours of `x` on the grid of
    multiples of `10 ^ k` that lies in the interval. -/
def onGrid (i : Interval) (x : Ratio) (k : Int) : Option Nat :=
  let (a, b) : Nat × Nat := match k with
    | .ofNat j => (x.num, x.den * Nat.pow 10 j)
    | .negSucc j => (x.num * Nat.pow 10 (j + 1), x.den)
  let below := a / b
  let above := below + 1
  let twice := 2 * (a % b)
  let lowFits := i.holds (decimalRatio below k)
  let highFits := i.holds (decimalRatio above k)
  match lowFits, highFits with
  | false, false => none
  | true, false => some below
  | false, true => some above
  | true, true =>
    if twice < b then some below
    else if b < twice then some above
    else if below % 2 = 0 then some below else some above

/-- The first of the grids with `count`, `count + 1`, … digits that has a point in
    the interval, with its exponent. -/
def firstGrid (i : Interval) (x : Ratio) (place : Int) : Nat → Nat → Nat × Int
  | 0, count => (0, place - count)
  | steps + 1, count =>
    match onGrid i x (place - count) with
    | some digits => (digits, place - count)
    | none => firstGrid i x place steps (count + 1)

/-- The shortest digits of `m · 2 ^ e` as `digits · 10 ^ k`; seventeen digits
    always suffice. -/
def shortest (m : Nat) (e : Int) : Nat × Int :=
  let x := ratio m e
  firstGrid (interval m e) x (decimalPlace x) 17 1

/-- Write digits with the decimal point after the first `place` of them. -/
def positional (digits : List Char) (place : Int) : List Char :=
  let count : Int := digits.length
  if place ≤ 0 then '0' :: '.' :: List.replicate (-place).toNat '0' ++ digits
  else if count ≤ place then digits ++ List.replicate (place - count).toNat '0' ++ ['.', '0']
  else digits.take place.toNat ++ '.' :: digits.drop place.toNat

/-- Write digits with the point after the first one and the exponent `exponent`. -/
def exponential (format : NumberFormat) (digits : List Char) (exponent : Int) : List Char :=
  let power := Nat.toDigits 10 exponent.natAbs
  let power := List.replicate (format.exponentWidth - power.length) '0' ++ power
  let mantissa := match digits with
    | [] => []
    | [d] => [d]
    | d :: rest => d :: '.' :: rest
  mantissa ++ 'e' :: (if exponent < 0 then '-' else '+') :: power

def format (style : NumberFormat) : Binary64 → List Char
  | .nan => ['n', 'a', 'n']
  | .infinite s => (if s then ['-'] else []) ++ ['i', 'n', 'f']
  | .finite s m e =>
    let sign := if s then ['-'] else []
    if m = 0 then sign ++ ['0', '.', '0']
    else
      let (value, k) := shortest m e
      -- a carry can leave zeros at the end, which are not significant
      let all := Nat.toDigits 10 value
      let digits := (all.reverse.dropWhile (· == '0')).reverse
      let place : Int := all.length + k
      sign ++
        (if style.leastPositional ≤ place - 1 ∧ place - 1 < style.firstExponential then
          positional digits place
        else exponential style digits (place - 1))

end Binary64

end LineShell
