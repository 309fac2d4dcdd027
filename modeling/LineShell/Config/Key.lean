/-
  LineShell/Config/Key.lean
  =========================
  **Values as keys.**

  Keys are equal by what they stand for: a truth value and a number without a
  fraction count as integers, and moments are compared in universal time.  The
  number that is none equals nothing.

  A set of numbers has an order of its own, which depends on the numbers and on the
  order in which they came.
-/
import LineShell.Config.Value

namespace LineShell.Value

/-! ### Equality -/

/-- A key as it is compared. -/
def keyForm : Value → Value
  | .bool b => .int (if b then 1 else 0)
  | .float x =>
    match x.toInt? with
    | some n => .int n
    | none => .float x
  | v => v

def sameKey (a b : Value) : Bool :=
  match keyForm a, keyForm b with
  | .null, .null => true
  | .int m, .int n => m == n
  | .float x, .float y => x == y && x != .nan
  | .text s, .text t => s == t
  | .bytes s, .bytes t => s == t
  | .date d, .date e => d == e
  | .moment m, .moment n => m.isSame n
  | _, _ => false

/-! ### The order of sets

A set of numbers and empty values lists its members by their places in a table, whose
size is a power of two.  The place of a member is its code modulo the size.  Where that place is
taken, up to nine places after it are tried, if the table has them, and then places
that further bits of the code give. -/

/-- Codes count modulo this prime, 2^61 - 1. -/
def codePrime : Nat := 0x1FFFFFFFFFFFFFFF

/-- The code of the fraction `mantissa · 2 ^ exponent`.  Modulo the prime a factor
    2^61 is one, so a negative exponent has a positive one in its place. -/
def fractionCode (mantissa : Nat) (exponent : Int) : Nat :=
  mantissa * Nat.pow 2 (exponent % 61).toNat % codePrime

/-- A magnitude with its sign.  Minus one shares the code of minus two. -/
def signedCode (negative : Bool) (magnitude : Nat) : Int :=
  if !negative then magnitude else if magnitude = 1 then -2 else -(magnitude : Int)

/-- The code of an infinity. -/
def infinityCode : Nat := 314159

/-- The code of a number or of an empty value; the number that is none has no fixed
    one. -/
def code? (v : Value) : Option Int :=
  match keyForm v with
  | .text [] => some 0
  | .bytes [] => some 0
  | .int n => some (signedCode (n < 0) (n.natAbs % codePrime))
  | .float (.finite negative mantissa exponent) =>
    some (signedCode negative (fractionCode mantissa exponent))
  | .float (.infinite negative) => some (signedCode negative infinityCode)
  | _ => none

/-- The size of the table for so many members: a power of two. -/
def tableSize (members : Nat) : Nat :=
  if members < 5 then 8 else Nat.pow 2 ((2 * members).log2 + 1)

/-- The places that are tried from one on. -/
def nearPlaces (size place : Nat) : List Nat :=
  if place + 9 < size then (List.range 10).map (place + ·) else [place]

/-- The first free place for a member, from the place `place` on; `bits` are the bits
    of its code that were not used. -/
def freePlace {α : Type} (table : Array (Option α)) : Nat → Nat → Nat → Option Nat
  | 0, _, _ => none
  | steps + 1, place, bits =>
    match (nearPlaces table.size place).find? fun p => (table[p]?).join.isNone with
    | some p => some p
    | none =>
      let bits := bits / 32
      freePlace table steps ((place * 5 + 1 + bits) % table.size) bits

/-- Codes are words of 64 bits. -/
def wordSize : Nat := 0x10000000000000000

/-- Put a member with a code into the table.  Once all bits of the code are used the
    places tried run through the whole table. -/
def putMember {α : Type} (table : Array (Option α)) (code : Int) (member : α) :
    Array (Option α) :=
  let bits := (code % wordSize).toNat
  match freePlace table (table.size + 13) (bits % table.size) bits with
  | some p => table.setIfInBounds p (some member)
  | none => table

/-- The members of a set in the order in which it lists them; each member has a
    value.  Where one has no fixed code they keep the order in which they came. -/
def setOrder {α : Type} (value : α → Value) (members : List α) : List α :=
  match members.mapM fun m => code? (value m) with
  | none => members
  | some codes =>
    let empty : Array (Option α) := Array.replicate (tableSize members.length) none
    let table := (codes.zip members).foldl (fun table (code, m) => putMember table code m) empty
    table.toList.filterMap id

end LineShell.Value
