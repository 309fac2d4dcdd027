/-
  LineShell/Batch.lean
  ====================
  **Batch files.**

  A batch file is a byte string.  It is read as a text, so undecodable bytes
  reach the commands unchanged, and is cut into lines at line feeds alone.  The
  lines are run in order until one leaves the shell; a fault ends the run.
-/
import LineShell.Line
import LineShell.Text.Encoding

namespace LineShell

/-- The lines of a text: a line feed ends a line, and what follows the last one
    is a line if it is not empty. -/
def Text.lines (t : Text) : List Text :=
  let pieces := cutWhere (· == .char '\n') t
  if pieces.getLast? = some [] then pieces.dropLast else pieces

namespace Action

/-- Run lines in order, numbered from `number`. -/
def runLines (number : Nat) : List Text → Action Int
  | [] => done 0
  | line :: rest => do
    log .loop .debug
      (Text.ofString "Executing line " ++ Text.ofNat number ++ Text.ofString ": " ++
        line.trimRight)
    match ← attempt (runLine line) with
    | .ok _ => runLines (number + 1) rest
    | .error (.exit status) => done status
    | .error f => fail f

def runScript (content : List UInt8) : Action Int := runLines 1 (Text.decode content).lines

end Action

end LineShell
