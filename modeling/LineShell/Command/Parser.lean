/-
  LineShell/Command/Parser.lean
  =============================
  **Parsing a line.**

  A line is cut into segments at every parallel marker.  A segment without
  tokens holds no command; any other one is a non-empty list of words, followed
  at most by one redirection operator and one word.  `parseLine` fails at the
  leftmost malformed segment, while `recoverLine` keeps what can be parsed and
  lists the failures beside it.
-/
import LineShell.Command.Token
import LineShell.Diagnostic

namespace LineShell

/-- How a segment misuses the redirection operator. -/
inductive SyntaxFault where
  /-- The segment has no command before the operator. -/
  | leadingOperator (segment : Text)
  /-- The operator is not followed by exactly one token. -/
  | oneFileExpected (segment : Text)
  /-- The token after the operator is an operator itself. -/
  | operatorAsTarget (target : Text)
deriving DecidableEq, Repr

/-- The wording of a fault, with the text at fault quoted. -/
def SyntaxFault.message : SyntaxFault → Text
  | .leadingOperator s => Text.ofString "segment starts with redirection: " ++ s.quoted
  | .oneFileExpected s => Text.ofString "expected exactly one file after redirection: " ++ s.quoted
  | .operatorAsTarget t => Text.ofString "invalid redirection target: " ++ t.quoted

/-- A fault as the failure that is reported. -/
def SyntaxFault.toFailure (f : SyntaxFault) : Failure := .redirectionSyntax f.message

namespace Text

def isOperator (token : Text) : Bool := token == [redirectOperator]

/-- The command that the tokens of `segment` spell. -/
def commandOfTokens (segment : Text) (tokens : List Text) :
    Except SyntaxFault (Option Command) :=
  let words := tokens.takeWhile (!isOperator ·)
  match words, tokens.dropWhile (!isOperator ·) with
  | [], [] => .ok none
  | [], _ :: _ => .error (.leadingOperator segment)
  | name :: _, [] => .ok (some ⟨name, words, none⟩)
  | name :: _, [_, target] =>
    if isOperator target then .error (.operatorAsTarget target)
    else .ok (some ⟨name, words, some target⟩)
  | _ :: _, _ => .error (.oneFileExpected segment)

/-- Parse one segment; a blank one holds no command. -/
def parseSegment (segment : Text) : Except SyntaxFault (Option Command) :=
  commandOfTokens segment segment.tokenize

def segments (line : Text) : List Text := cutWhere (· == parallelMarker) line

/-- The commands of a list of segments, or the first fault. -/
def parseSegments : List Text → Except SyntaxFault (List Command)
  | [] => .ok []
  | s :: rest => do
    let command ← s.parseSegment
    let commands ← parseSegments rest
    .ok (command.toList ++ commands)

/-- The commands of a line; the leftmost malformed segment fails the line. -/
def parseLine (line : Text) : Except SyntaxFault (List Command) := parseSegments line.segments

/-- What parsing makes of each segment that is not blank: a command or a fault,
    in order. -/
def recoverLine (line : Text) : List (Except SyntaxFault Command) :=
  line.segments.filterMap fun s =>
    match s.parseSegment with
    | .ok none => none
    | .ok (some c) => some (.ok c)
    | .error f => some (.error f)

/-- A line ends at its first line feed. -/
def firstLine (t : Text) : Text := t.takeWhile (· != .char '\n')

end Text

end LineShell
