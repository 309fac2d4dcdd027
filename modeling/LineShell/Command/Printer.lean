/-
  LineShell/Command/Printer.lean
  ==============================
  **Writing commands as a line.**

  The arguments are joined by single spaces, a target follows the redirection
  operator, and commands are joined by the parallel marker.  A well-formed list
  of commands is what parsing the written line returns.
-/
import LineShell.Command.Basic

namespace LineShell

/-- A command as it can be typed. -/
def Command.print (c : Command) : Text :=
  Text.joinWith [.char ' '] c.args ++
    match c.target with
    | none => []
    | some t => [.char ' ', redirectOperator, .char ' '] ++ t

def Text.printLine (commands : List Command) : Text :=
  joinWith [.char ' ', parallelMarker, .char ' '] (commands.map Command.print)

end LineShell
