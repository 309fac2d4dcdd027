/-
  LineShell/Text/Encoding.lean
  ============================
  **Texts as bytes.**

  Every byte string reads as a text: at each position a well-formed UTF-8
  sequence is one character, and a byte that starts none is kept as a stray
  symbol.  Reading never fails, and writing the text gives the bytes back.
  Where bytes have to be valid UTF-8, `decodeStrict?` refuses stray ones.

  A sequence is well formed when it is what the encoder writes for the code
  point that its bits spell, so overlong forms, surrogates and code points
  beyond the last plane are refused by one comparison.
-/
import LineShell.Text.Symbol

namespace LineShell

/-- The three bytes that spell a code point below 0x10000 as UTF-8 would. -/
def threeBytes (code : Nat) : List UInt8 :=
  [0xE0 + code / 4096, 0x80 + code / 64 % 64, 0x80 + code % 64].map UInt8.ofNat

/-- The bytes of a symbol.  Half of a surrogate pair has no well-formed sequence
    and is spelled as three bytes that do not read back as one symbol. -/
def Symbol.encode : Symbol → List UInt8
  | .char c => String.utf8EncodeChar c
  | .raw low => [Symbol.rawByte low]
  | s@(.half _) => threeBytes s.code

namespace Text

def encode (t : Text) : List UInt8 := t.flatMap Symbol.encode

/-- The bytes that a text is written as.  Half of a surrogate pair cannot be written. -/
def encode? (t : Text) : Option (List UInt8) := if t.hasHalf then none else some t.encode

/-! ### Reading -/

/-- The length of the sequence that a first byte announces, with the bits that
    the byte itself carries. -/
def leadByte (b : UInt8) : Option (Nat × Nat) :=
  let n := b.toNat
  if n < 0x80 then some (1, n)
  else if n < 0xC0 then none
  else if n < 0xE0 then some (2, n - 0xC0)
  else if n < 0xF0 then some (3, n - 0xE0)
  else if n < 0xF8 then some (4, n - 0xF0)
  else none

/-- The character whose encoding stands at the front of the bytes, with its
    length. -/
def decodeChar? (bytes : List UInt8) : Option (Char × Nat) :=
  match bytes with
  | [] => none
  | b :: rest =>
    match leadByte b with
    | none => none
    | some (width, bits) =>
      let code := (rest.take (width - 1)).foldl (fun acc x => acc * 64 + x.toNat % 64) bits
      let c := Char.ofNat code
      if String.utf8EncodeChar c = bytes.take width then some (c, width) else none

/-- The symbol of a byte outside every sequence.  A byte below 0x80 always is a
    sequence, so such a byte is at least 0x80 and its low seven bits name it. -/
def strayByte (b : UInt8) : Symbol := .raw ⟨b.toNat % 128, Nat.mod_lt _ (by decide)⟩

/-- Read the bytes after the first `skip`, which belong to the character read
    last. -/
def decodeAfter : Nat → List UInt8 → Text
  | _, [] => []
  | skip + 1, _ :: rest => decodeAfter skip rest
  | 0, b :: rest =>
    match decodeChar? (b :: rest) with
    | some (c, width) => .char c :: decodeAfter (width - 1) rest
    | none => strayByte b :: decodeAfter 0 rest

/-- Read bytes as a text; no byte string is refused. -/
def decode (bytes : List UInt8) : Text := decodeAfter 0 bytes

/-- Read bytes as characters, refusing any stray byte. -/
def decodeStrict? (bytes : List UInt8) : Option (List Char) := (decode bytes).chars?

end Text

end LineShell
