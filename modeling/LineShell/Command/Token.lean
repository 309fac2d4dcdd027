/-
  LineShell/Command/Token.lean
  ============================
  **Tokens of a segment.**

  A segment is cut at blanks, and every redirection operator stands alone.
  `normalize` makes the operators stand alone by writing a space on either side,
  and `tokenize` then takes the words.  `lexemes` says the same without going
  through the padded text: each operator is a token, and so is each maximal run
  of symbols that are neither blank nor an operator.
-/
import LineShell.Command.Basic

namespace LineShell

namespace Text

/-- Write a space on either side of every redirection operator. -/
def isolateOperators (t : Text) : Text :=
  t.flatMap fun s =>
    if s = redirectOperator then [.char ' ', redirectOperator, .char ' '] else [s]

/-- A segment with its operators set apart and its outer blanks dropped. -/
def normalize (t : Text) : Text := (isolateOperators t).trim

/-- The tokens of a segment: words and operators. -/
def tokenize (t : Text) : List Text := (normalize t).words

/-! ### Tokens by their grammar -/

/-- Does the symbol belong to a word? -/
def inWord (s : Symbol) : Bool := !s.isBlank && s != redirectOperator

/-- Add a symbol to the front of a token list: it extends a first token that
    touches it. -/
def extend (s : Symbol) (touching : Bool) : List Text → List Text
  | [] => [[s]]
  | t :: ts => if touching then (s :: t) :: ts else [s] :: t :: ts

/-- The tokens from left to right: every operator by itself, and every maximal
    run of word symbols. -/
def lexemes : Text → List Text
  | [] => []
  | s :: rest =>
    if s = redirectOperator then [redirectOperator] :: lexemes rest
    else if s.isBlank then lexemes rest
    else extend s (rest.head?.any inWord) (lexemes rest)

end Text

end LineShell
