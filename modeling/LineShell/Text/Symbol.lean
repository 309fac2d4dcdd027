/-
  LineShell/Text/Symbol.lean
  ==========================
  **Text that may hold undecodable bytes.**

  A shell reads file names and batch files that need not be valid UTF-8.  A
  text is therefore a list of symbols, where a symbol is a character or one byte
  (always at least 0x80) that belongs to no well-formed sequence.  Keeping the
  stray byte as a symbol of its own is what lets a text be written back exactly
  as it was read.

  A document may name half of a surrogate pair, which is no character either.
  The halves that share their code points with the stray bytes are those bytes;
  the others are symbols of a third kind, which reading never yields.

  Besides the type this file holds the few list functions that every layer of
  the shell shares: cutting a text wherever a test holds, and writing a text to
  a terminal that shows a stray byte as an escape.
-/

namespace LineShell

/-- One unit of text: a character, the byte `128 + low` that no UTF-8 sequence
    claims, or another surrogate, of which there are 1920. -/
inductive Symbol where
  | char (c : Char)
  | raw (low : Fin 128)
  | half (place : Fin 1920)
deriving DecidableEq, Repr

/-- A text is a list of symbols. -/
abbrev Text := List Symbol

namespace Symbol

def is (c : Char) (s : Symbol) : Bool := s == .char c

def isChar : Symbol → Bool
  | .char _ => true
  | .raw _ | .half _ => false

def char? : Symbol → Option Char
  | .char c => some c
  | .raw _ | .half _ => none

/-- Is the symbol half of a surrogate pair that is no stray byte? -/
def isHalf : Symbol → Bool
  | .half _ => true
  | .char _ | .raw _ => false

/-- The byte that a stray symbol stands for. -/
def rawByte (low : Fin 128) : UInt8 := UInt8.ofNat (128 + low.val)

/-- The code point of a character.  No character occupies the surrogates, 0xD800
    to 0xDFFF: a stray byte lies in their block from 0xDC80 to 0xDCFF, and the
    halves fill the rest. -/
def code : Symbol → Nat
  | .char c => c.toNat
  | .raw low => 0xDC80 + low.val
  | .half place => if place.val < 0x480 then 0xD800 + place.val else 0xD880 + place.val

/-- The symbol of a surrogate `0xD800 + n`. -/
def surrogate (n : Fin 2048) : Symbol :=
  if h : n.val < 0x480 then .half ⟨n.val, by omega⟩
  else if h' : n.val < 0x500 then .raw ⟨n.val - 0x480, by omega⟩
  else .half ⟨n.val - 0x80, by omega⟩

theorem code_surrogate (n : Fin 2048) : (surrogate n).code = 0xD800 + n.val := by
  unfold surrogate
  split
  · simp_all [code]
  · split
    · simp only [code]
      omega
    · have hn : ¬ n.val - 0x80 < 0x480 := by omega
      simp only [code, hn, if_false]
      omega

/-- The symbol of a code point, if it is one. -/
def ofCode? (code : Nat) : Option Symbol :=
  if h : 0xD800 ≤ code ∧ code < 0xE000 then some (surrogate ⟨code - 0xD800, by omega⟩)
  else if code < 0x110000 then some (.char (Char.ofNat code))
  else none

end Symbol

namespace Text

/-- The text of a string, all characters. -/
def ofString (s : String) : Text := s.toList.map .char

/-- The decimal text of a natural number. -/
def ofNat (n : Nat) : Text := ofString (Nat.repr n)

/-- The decimal text of an integer, with a leading minus below zero. -/
def ofInt : Int → Text
  | .ofNat n => ofNat n
  | .negSucc n => .char '-' :: ofNat (n + 1)

def chars? : Text → Option (List Char)
  | [] => some []
  | .char c :: rest => (chars? rest).map (c :: ·)
  | .raw _ :: _ => none
  | .half _ :: _ => none

/-- The outside world takes no text that holds the NUL character. -/
def hasNul (t : Text) : Bool := t.any (Symbol.is '\x00')

/-- A text that holds half of a surrogate pair cannot be written as bytes. -/
def hasHalf (t : Text) : Bool := t.any Symbol.isHalf

@[simp] theorem hasHalf_append (s t : Text) : hasHalf (s ++ t) = (hasHalf s || hasHalf t) :=
  List.any_append

@[simp] theorem hasHalf_ofString (s : String) : hasHalf (ofString s) = false := by
  simp [hasHalf, ofString, Symbol.isHalf]

/-- Join texts with a separator between neighbours. -/
def joinWith (separator : Text) : List Text → Text
  | [] => []
  | [t] => t
  | t :: rest => t ++ separator ++ joinWith separator rest

/-! ### Cutting a text

`cutWhere p` returns the pieces between the symbols that satisfy `p`, the empty
ones included, so a text without such a symbol is one piece. -/

/-- The pieces of a list between the elements that satisfy `p`. -/
def cutWhere {α : Type} (p : α → Bool) : List α → List (List α)
  | [] => [[]]
  | a :: rest =>
    if p a then [] :: cutWhere p rest
    else match cutWhere p rest with
      | [] => [[a]]
      | piece :: pieces => (a :: piece) :: pieces

theorem cutWhere_ne_nil {α : Type} (p : α → Bool) (l : List α) : cutWhere p l ≠ [] := by
  cases l with
  | nil => simp [cutWhere]
  | cons a rest =>
    unfold cutWhere
    split
    · simp
    · split <;> simp

/-- Without a separator there is one piece. -/
theorem cutWhere_eq_self {α : Type} {p : α → Bool} {l : List α} (h : ∀ a ∈ l, p a = false) :
    cutWhere p l = [l] := by
  induction l with
  | nil => rfl
  | cons a rest ih =>
    obtain ⟨ha, hrest⟩ := List.forall_mem_cons.mp h
    simp [cutWhere, ha, ih hrest]

/-- Cutting at a separator splits the pieces in two. -/
theorem cutWhere_append_separator {α : Type} (p : α → Bool) (a b : List α) {x : α}
    (hx : p x = true) : cutWhere p (a ++ x :: b) = cutWhere p a ++ cutWhere p b := by
  induction a with
  | nil => simp [cutWhere, hx]
  | cons y a ih =>
    simp only [List.cons_append, cutWhere, ih]
    split
    · rfl
    · cases h : cutWhere p a with
      | nil => exact absurd h (cutWhere_ne_nil p a)
      | cons piece pieces => simp

/-- Pieces without a separator are found again when they are joined by one. -/
theorem cutWhere_joinWith {p : Symbol → Bool} {x : Symbol} (hx : p x = true) {pieces : List Text}
    (hfree : ∀ t ∈ pieces, ∀ s ∈ t, p s = false) (hsome : pieces ≠ []) :
    cutWhere p (joinWith [x] pieces) = pieces := by
  induction pieces with
  | nil => exact absurd rfl hsome
  | cons t rest ih =>
    obtain ⟨ht, hrest⟩ := List.forall_mem_cons.mp hfree
    cases rest with
    | nil => exact cutWhere_eq_self ht
    | cons next rest =>
      have hlater := ih hrest (by simp)
      rw [joinWith, List.append_assoc, List.singleton_append, cutWhere_append_separator _ _ _ hx,
        cutWhere_eq_self ht, hlater, List.singleton_append]
      simp

/-! ### Terminal output -/

/-- The hexadecimal digits of `n`, at least `width` of them. -/
def hexDigits (width n : Nat) : List Char :=
  let digits := Nat.toDigits 16 n
  List.replicate (width - digits.length) '0' ++ digits

/-- A terminal shows a symbol that is no character as `\uNNNN`, its code point
    among the surrogates. -/
def display (t : Text) : String :=
  String.ofList (t.flatMap fun
    | .char c => [c]
    | s => '\\' :: 'u' :: hexDigits 4 s.code)

end Text

end LineShell
