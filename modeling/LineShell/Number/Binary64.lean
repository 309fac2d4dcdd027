/-
  LineShell/Number/Binary64.lean
  ==============================
  **Double-precision numbers.**

  A finite number is a sign and `mantissa · 2 ^ exponent` with a mantissa below
  2^53; below 2^52 the exponent is the least one, -1074, so every number but zero
  has one form for its sign.  All arithmetic is exact on fractions and is rounded
  once, to the nearest number and on a tie to the even mantissa.
-/
namespace LineShell

inductive Binary64 where
  | nan
  | infinite (negative : Bool)
  | finite (negative : Bool) (mantissa : Nat) (exponent : Int)
deriving DecidableEq, Repr

namespace Binary64

def minExponent : Int := -1074

def maxExponent : Int := 971

/-- The least mantissa above the least exponent, 2^52. -/
def leastFullMantissa : Nat := 0x10000000000000

def zero (negative : Bool) : Binary64 := .finite negative 0 minExponent

/-- `n · 2 ^ e` over `d` as a fraction of natural numbers. -/
def scale (n d : Nat) (e : Int) : Nat × Nat :=
  match e with
  | .ofNat k => (n <<< k, d)
  | .negSucc k => (n, d <<< (k + 1))

/-- Divide and round to the nearest integer, on a tie to the even one. -/
def divideToEven (n d : Nat) : Nat :=
  let q := n / d
  let twice := 2 * (n % d)
  if twice < d then q
  else if d < twice then q + 1
  else if q % 2 = 0 then q else q + 1

def ofFraction (negative : Bool) (n d : Nat) : Binary64 :=
  if n = 0 ∨ d = 0 then zero negative
  else
    let guess : Int := (n.log2 : Int) - d.log2 - 53
    let floorAt (e : Int) : Nat := let (a, b) := scale n d (-e); a / b
    let e := if floorAt guess < 2 * leastFullMantissa then guess else guess + 1
    let e := max e minExponent
    let (a, b) := scale n d (-e)
    let q := divideToEven a b
    let (q, e) := if q = 2 * leastFullMantissa then (leastFullMantissa, e + 1) else (q, e)
    if maxExponent < e then .infinite negative else .finite negative q e

/-- The number nearest to `mantissa · 10 ^ exponent`.  A magnitude of more than
    400 digits before the point, or of more than 400 zeros after it, is settled
    without the power. -/
def ofDecimal (negative : Bool) (mantissa : Nat) (exponent : Int) : Binary64 :=
  let magnitude : Int := (Nat.toDigits 10 mantissa).length + exponent
  if mantissa = 0 then zero negative
  else if 400 < magnitude then .infinite negative
  else if magnitude < -400 then zero negative
  else
    match exponent with
    | .ofNat k => ofFraction negative (mantissa * Nat.pow 10 k) 1
    | .negSucc k => ofFraction negative mantissa (Nat.pow 10 (k + 1))

def ofInt (n : Int) : Binary64 := ofFraction (n < 0) n.natAbs 1

def neg : Binary64 → Binary64
  | .nan => .nan
  | .infinite s => .infinite (!s)
  | .finite s m e => .finite (!s) m e

/-- A signed integer as a multiple of `2 ^ e`, rounded; a zero gets the sign
    `zeroSign`. -/
def ofScaled (n : Int) (e : Int) (zeroSign : Bool) : Binary64 :=
  if n = 0 then zero zeroSign
  else
    let (a, b) := scale n.natAbs 1 e
    ofFraction (n < 0) a b

def signed (negative : Bool) (m : Nat) : Int := if negative then -(m : Int) else m

def add : Binary64 → Binary64 → Binary64
  | .nan, _ => .nan
  | _, .nan => .nan
  | .infinite s, .infinite t => if s = t then .infinite s else .nan
  | .infinite s, _ => .infinite s
  | _, .infinite t => .infinite t
  | .finite s m e, .finite t n f =>
    let low := min e f
    let a := signed s (m <<< (e - low).toNat)
    let b := signed t (n <<< (f - low).toNat)
    ofScaled (a + b) low (s && t)

def mul : Binary64 → Binary64 → Binary64
  | .nan, _ => .nan
  | _, .nan => .nan
  | .infinite s, .infinite t => .infinite (s != t)
  | .infinite s, .finite t n _ => if n = 0 then .nan else .infinite (s != t)
  | .finite s m _, .infinite t => if m = 0 then .nan else .infinite (s != t)
  | .finite s m e, .finite t n f => ofScaled (signed s m * signed t n) (e + f) (s != t)

/-- The integer that a finite number is, if it is one. -/
def toInt? : Binary64 → Option Int
  | .finite s m e =>
    match e with
    | .ofNat k => some (signed s (m <<< k))
    | .negSucc k =>
      let unit := Nat.pow 2 (k + 1)
      if m % unit = 0 then some (signed s (m / unit)) else none
  | _ => none

/-- Is the number zero, of either sign? -/
def isZero : Binary64 → Bool
  | .finite _ m _ => m == 0
  | _ => false

end Binary64

end LineShell
