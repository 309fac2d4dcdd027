/-
  LineShell/Yaml/Token.lean
  =========================
  **Tokens of a document.**

  Blocks are delimited by indentation: a collection starts where an entry stands
  further right than the one around it, and ends where a token stands further
  left.  The tokens `blockSequence`, `blockMapping` and `blockEnd` make that
  explicit.

  A key needs no mark of its own when it stands on one line.  Whether something
  was such a key is known only at the colon after it, so the place of every
  candidate is remembered, one for each level of brackets, and the key token is
  put there later.  A candidate lapses at the end of its line or after 1024
  characters; one that stands where the block allows nothing but a key has to
  become one.
-/
import LineShell.Yaml.Block
import LineShell.Yaml.Plain
import LineShell.Yaml.Quoted
import LineShell.Yaml.Tag

namespace LineShell.Yaml

inductive Token where
  | directive (d : Directive)
  | documentStart
  | documentEnd
  | blockSequence
  | blockMapping
  | blockEnd
  | flowSequence
  | flowSequenceEnd
  | flowMapping
  | flowMappingEnd
  | blockEntry
  | flowEntry
  | key
  | value
  | alias (name : String)
  | anchor (name : String)
  | tag (t : TagText)
  | scalar (text : Text) (plain : Bool)
  | streamEnd
  /-- The document cannot be read beyond this place. -/
  | fault (f : DocumentFault)
deriving DecidableEq, Repr

/-- A place where a key may have started. -/
structure KeyCandidate where
  /-- The number of tokens before it. -/
  place : Nat
  /-- Nothing but a key may stand there. -/
  required : Bool
  index : Nat
  line : Nat
  column : Nat

/-- The tokens read so far, and what the next one depends on. -/
structure Lexer where
  cursor : Cursor
  tokens : Array Token
  /-- How many brackets are open. -/
  depth : Nat
  /-- The column of the innermost block, and of those around it. -/
  indent : Int
  outer : List Int
  /-- May a key without a mark start here? -/
  keyAllowed : Bool
  /-- The candidates, by the number of open brackets. -/
  candidates : List (Nat × KeyCandidate)

namespace Lexer

def start (source : Source) : Lexer where
  cursor := .start source
  tokens := #[]
  depth := 0
  indent := -1
  outer := []
  keyAllowed := true
  candidates := []

abbrev Lex := StateT Lexer (Except DocumentFault)

def scan {α : Type} (s : Scan α) : Lex α := do
  let l ← get
  let (a, cursor) ← s l.cursor
  set { l with cursor }
  return a

def malformed {α : Type} : Lex α := throw .malformed

def push (t : Token) : Lex Unit := modify fun l => { l with tokens := l.tokens.push t }

/-- Put a token before the one at a place. -/
def insertAt (place : Nat) (t : Token) : Lex Unit :=
  modify fun l =>
    { l with tokens := if h : place ≤ l.tokens.size then l.tokens.insertIdx place t h else l.tokens }

def allowKey (allowed : Bool) : Lex Unit := modify fun l => { l with keyAllowed := allowed }

def inFlow : Lex Bool := return (← get).depth ≠ 0

/-! ### Key candidates -/

/-- Drop the candidates that have lapsed. -/
def dropLapsed : Lex Unit := do
  let l ← get
  let lapsed (k : KeyCandidate) : Bool :=
    k.line ≠ l.cursor.line || 1024 < l.cursor.index - k.index
  if l.candidates.any fun (_, k) => lapsed k && k.required then malformed
  set { l with candidates := l.candidates.filter fun (_, k) => !lapsed k }

/-- Drop the candidate of the current level; it must not be required. -/
def dropCandidate : Lex Unit := do
  let l ← get
  if (l.candidates.lookup l.depth).any (·.required) then malformed
  set { l with candidates := l.candidates.filter fun (d, _) => d ≠ l.depth }

/-- Remember that a key may start here. -/
def noteCandidate : Lex Unit := do
  if (← get).keyAllowed then
    dropCandidate
    let l ← get
    let c := l.cursor
    let k : KeyCandidate :=
      ⟨l.tokens.size, l.depth = 0 && l.indent == (c.column : Int), c.index, c.line, c.column⟩
    set { l with candidates := (l.depth, k) :: l.candidates }

/-! ### Indentation -/

/-- End the blocks that stand further right than a column. -/
def closeBlocksTo (column : Int) : Nat → Lex Unit
  | 0 => return ()
  | steps + 1 => do
    let l ← get
    if column < l.indent then
      set { l with
        indent := l.outer.head?.getD (-1), outer := l.outer.drop 1, tokens := l.tokens.push .blockEnd }
      closeBlocksTo column steps

/-- End blocks by indentation, which counts outside brackets only. -/
def closeBlocks (column : Int) : Lex Unit := do
  if !(← inFlow) then closeBlocksTo column ((← get).outer.length + 1)

/-- Start a block at a column if it stands further right than the current one. -/
def openBlock (column : Int) : Lex Bool := do
  let l ← get
  if l.indent < column then
    set { l with indent := column, outer := l.indent :: l.outer }
    return true
  else return false

/-! ### Single tokens -/

/-- A token that ends all blocks: a directive or a marker between documents. -/
def endBlocks : Lex Unit := do
  closeBlocks (-1)
  dropCandidate
  allowKey false

def openFlow (t : Token) : Lex Unit := do
  noteCandidate
  modify fun l => { l with depth := l.depth + 1, keyAllowed := true }
  scan (Scan.skip 1)
  push t

def closeFlow (t : Token) : Lex Unit := do
  dropCandidate
  modify fun l => { l with depth := l.depth - 1, keyAllowed := false }
  scan (Scan.skip 1)
  push t

def flowEntry : Lex Unit := do
  allowKey true
  dropCandidate
  scan (Scan.skip 1)
  push .flowEntry

/-- Outside brackets an entry or a key with a mark may stand only where a key
    could, and may start a block. -/
def openEntry (block : Token) : Lex Unit := do
  if !(← inFlow) then
    if !(← get).keyAllowed then malformed
    if ← openBlock (← get).cursor.column then push block

def blockEntry : Lex Unit := do
  openEntry .blockSequence
  allowKey true
  dropCandidate
  scan (Scan.skip 1)
  push .blockEntry

def markedKey : Lex Unit := do
  openEntry .blockMapping
  allowKey !(← inFlow)
  dropCandidate
  scan (Scan.skip 1)
  push .key

/-- A colon: it makes the candidate of its level a key, or stands for a value
    whose key is marked or left out. -/
def value : Lex Unit := do
  let l ← get
  match l.candidates.lookup l.depth with
  | some k =>
    set { l with candidates := l.candidates.filter fun (d, _) => d ≠ l.depth }
    insertAt k.place .key
    if !(← inFlow) then
      if ← openBlock k.column then insertAt k.place .blockMapping
    allowKey false
  | none =>
    openEntry .blockMapping
    allowKey !(← inFlow)
    dropCandidate
  scan (Scan.skip 1)
  push .value

/-- A part of a node that may start a key. -/
def keyPart (read : Scan Token) : Lex Unit := do
  noteCandidate
  allowKey false
  push (← scan read)

def plainScalar : Lex Unit := do
  noteCandidate
  allowKey false
  let l ← get
  let (cs, broke) ← scan (Plain.scalar (l.depth ≠ 0) (l.indent + 1))
  if broke then allowKey true
  push (.scalar (cs.map .char) true)

def blockScalar (folded : Bool) : Lex Unit := do
  allowKey true
  dropCandidate
  let cs ← scan (Block.scalar folded (← get).indent)
  push (.scalar (cs.map .char) false)

/-! ### The next token -/

/-- Skip spaces, comments and line breaks; outside brackets a key may start on
    the new line. -/
def skipToToken : Nat → Lex Unit
  | 0 => return ()
  | steps + 1 => do
    scan (Scan.skipWhile (· == ' '))
    if (← scan Scan.peek) == some '#' then scan (Scan.skipWhile (!isBreak ·))
    if (← scan Scan.lineBreak).isSome then
      if !(← inFlow) then allowKey true
      skipToToken steps

/-- A character with a meaning of its own at the start of a token. -/
def isIndicator (c : Char) : Bool :=
  endsWord (some c) || Plain.isFlowMark c || c == '-' || c == '?' || c == ':' || c == '#' ||
    c == '&' || c == '*' || c == '!' || c == '|' || c == '>' || c == '\x27' || c == '\x22' ||
    c == '%' || c == '@' || c == '\x60'

/-- Read the token that starts with the character `c`. -/
def tokenFrom (c : Char) : Lex Unit := do
  let inFlow ← inFlow
  let atStart := (← get).cursor.column == 0
  let isMarker : Lex Bool := scan Scan.atDocumentMarker
  let wordEnds : Lex Bool := return endsWord (← scan (Scan.peekAt 1))
  if c == '%' && atStart then
    endBlocks
    push (.directive (← scan Tag.directive))
  else if ← pure (atStart && (c == '-' || c == '.')) <&&> isMarker then
    endBlocks
    scan (Scan.skip 3)
    push (if c == '-' then .documentStart else .documentEnd)
  else if c == '\x5b' then openFlow .flowSequence
  else if c == '\x7b' then openFlow .flowMapping
  else if c == '\x5d' then closeFlow .flowSequenceEnd
  else if c == '\x7d' then closeFlow .flowMappingEnd
  else if c == ',' then flowEntry
  else if ← pure (c == '-') <&&> wordEnds then blockEntry
  else if ← pure (c == '?') <&&> (pure inFlow <||> wordEnds) then markedKey
  else if ← pure (c == ':') <&&> (pure inFlow <||> wordEnds) then value
  else if c == '*' then keyPart do
    Scan.skip 1
    return .alias (← Tag.anchorName)
  else if c == '&' then keyPart do
    Scan.skip 1
    return .anchor (← Tag.anchorName)
  else if c == '!' then keyPart do
    return .tag (← Tag.tag)
  else if c == '|' && !inFlow then blockScalar false
  else if c == '>' && !inFlow then blockScalar true
  else if c == '\x27' then keyPart do
    return .scalar (← Quoted.scalar false) false
  else if c == '\x22' then keyPart do
    return .scalar (← Quoted.scalar true) false
  else if !isIndicator c then plainScalar
  else
    let continues := !(← wordEnds)
    if continues && (c == '-' || (!inFlow && (c == '?' || c == ':'))) then plainScalar
    else malformed

/-- Read the next token; the answer says whether it was the last one. -/
def nextToken : Lex Bool := do
  if (← get).cursor.index = 0 then
    if (← scan Scan.peek) == some '\ufeff' then scan (Scan.skip 1)
  skipToToken ((← get).cursor.remaining + 1)
  dropLapsed
  closeBlocks (← get).cursor.column
  match ← scan Scan.peek with
  | some c =>
    tokenFrom c
    dropLapsed
    return false
  | none =>
    endBlocks
    push .streamEnd
    return true

/-- The tokens that no later one can change: those before the first candidate. -/
def settled (l : Lexer) : List Token :=
  match (l.candidates.map (·.2.place)).min? with
  | some place => l.tokens.toList.take place
  | none => l.tokens.toList

/-- All tokens.  Where the document cannot be read further, a fault stands after
    those that are settled. -/
def run : Nat → Lexer → List Token
  | 0, l => l.tokens.toList
  | steps + 1, l =>
    match nextToken l with
    | .ok (true, l) => l.tokens.toList
    | .ok (false, l) => run steps l
    | .error f => l.settled ++ [.fault f]

end Lexer

/-- The tokens of a document.  Every token takes at least one character, so their
    number is bounded by the length of the text. -/
def tokens (source : Source) : List Token :=
  Lexer.run (source.chars.length + 1) (.start source)

end LineShell.Yaml
