/-
  LineShell/Yaml/Source.lean
  ==========================
  **The text of a document as it is read.**

  The bytes of a document are decoded and checked block by block, as the reading of
  its tokens asks for them.  So a byte that is no text, or a character that may not
  stand in a document, is a fault of its block: it counts once the reading gets
  there, and a fault in the text before it comes first.  A source is what can be
  read up to such a block.

  Blocks hold 4096 characters, but the first two are read at once.  The decoder
  takes the bytes in chunks of its own, and the fault of a chunk belongs to the
  block for which the chunk was taken.
-/
import LineShell.Text.Encoding
import LineShell.Yaml.Fault

namespace LineShell.Yaml

/-- The text of a document, and the fault in its place after it, if any. -/
structure Source where
  chars : List Char
  ending : Option DocumentFault

namespace Source

/-! ### Characters -/

/-- A character that may stand in a document at all. -/
def isAllowed (c : Char) : Bool :=
  let n := c.toNat
  n == 0x09 || n == 0x0A || n == 0x0D || (0x20 ≤ n && n ≤ 0x7E) || n == 0x85 ||
    (0xA0 ≤ n && n ≤ 0xD7FF) || (0xE000 ≤ n && n ≤ 0xFFFD) || 0x10000 ≤ n

/-- Every way of ending a line counts as a line feed. -/
def unifyBreaks : List Char → List Char
  | [] => []
  | '\r' :: '\n' :: rest => '\n' :: unifyBreaks rest
  | c :: rest => (if c = '\r' then '\n' else c) :: unifyBreaks rest

/-! ### Blocks -/

/-- The number of characters in a block. -/
def blockSize : Nat := 4096

/-- Where the block that holds a character starts. -/
def blockStart (index : Nat) : Nat :=
  if index < 2 * blockSize then 0 else index / blockSize * blockSize

/-- The text before the block that holds a character, and a fault after it. -/
def cut (text : List Char) (index : Nat) (f : DocumentFault) : Source :=
  ⟨text.take (blockStart index), some f⟩

/-- The source of a text of characters. -/
def ofChars (text : List Char) : Source :=
  match text.findIdx? (!isAllowed ·) with
  | some index => cut text index .malformed
  | none => ⟨text, none⟩

/-! ### Chunks of bytes -/

/-- The range of the bytes that may follow the first byte of a sequence. -/
def secondBytes (first : UInt8) : Option (Nat × Nat) :=
  let b := first.toNat
  if b < 0xC2 ∨ 0xF4 < b then none
  else if b = 0xE0 then some (0xA0, 0xBF)
  else if b = 0xED then some (0x80, 0x9F)
  else if b = 0xF0 then some (0x90, 0xBF)
  else if b = 0xF4 then some (0x80, 0x8F)
  else some (0x80, 0xBF)

/-- How many bytes in front of bytes that start no sequence could still start one:
    the byte after them is the one that shows the fault. -/
def openBytes : List UInt8 → Nat
  | [] => 0
  | first :: rest =>
    match secondBytes first, rest with
    | none, _ => 0
    | some _, [] => 1
    | some (low, high), second :: rest =>
      if second.toNat < low ∨ high < second.toNat then 1
      else if first.toNat < 0xF0 then 2
      else if rest.head?.any fun b => 0x80 ≤ b.toNat && b.toNat ≤ 0xBF then 3
      else 2

/-- The number of bytes that are read before each character of a text with unified
    breaks is known.  Whether a carriage return is a break of its own shows only at
    the character after it. -/
def completions (offset : Nat) : List Char → List Nat
  | [] => []
  | ['\r'] => []
  | '\r' :: '\n' :: rest => (offset + 2) :: completions (offset + 2) rest
  | '\r' :: c :: rest => (offset + 1 + c.utf8Size) :: completions (offset + 1) (c :: rest)
  | c :: rest => (offset + c.utf8Size) :: completions (offset + c.utf8Size) rest

/-- The least number of bytes in a chunk. -/
def chunkSize : Nat := 8192

/-- The number of characters that are known when the chunk with the byte at `fault`
    is taken.  A chunk is as long as the characters still wanted for the current
    block would be at the rate of the chunk before it, where `width` bytes gave
    `gained` characters. -/
def charsBefore (known : List Nat) (size fault : Nat) : Nat → Nat → Nat → Nat → Nat → Nat
  | 0, _, count, _, _ => count
  | steps + 1, start, count, width, gained =>
    let wanted := blockSize - count % blockSize
    let stop := min (start + max chunkSize (width * wanted / gained)) size
    if size ≤ start ∨ fault < stop then count
    else
      let next := (known.takeWhile (· ≤ stop)).length
      charsBefore known size fault steps stop next (stop - start) (next - count)

def ofBytes (bytes : List UInt8) : Source :=
  match Text.decodeStrict? bytes with
  | some text => ofChars (unifyBreaks text)
  | none =>
    let good := ((Text.decode bytes).takeWhile Symbol.isChar).filterMap Symbol.char?
    let offset := good.foldl (fun n c => n + c.utf8Size) 0
    let fault := offset + openBytes (bytes.drop offset)
    let index := charsBefore (completions 0 good) bytes.length fault (bytes.length + 1) 0 0 0 0
    let text := unifyBreaks good
    match text.findIdx? (!isAllowed ·) with
    | some i => if blockStart i < blockStart index then cut text i .malformed
        else cut text index .undecodable
    | none => cut text index .undecodable

end Source

end LineShell.Yaml
