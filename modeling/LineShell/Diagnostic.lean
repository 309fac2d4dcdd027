/-
  LineShell/Diagnostic.lean
  =========================
  **Diagnostics.**

  Every failure that the shell reports belongs to one of eight kinds, and each
  kind has one fixed line of text.  A failure also carries a detail, which goes
  to the log and never to the user; only a program that the system refused to
  run names itself and the reason in its diagnostic.

  A failure of such a program whose output is redirected is written into the
  target instead.  The flag `redirected` records that, so that it is not shown a
  second time.
-/
import LineShell.Text.Quoted

namespace LineShell

/-- The closed set of diagnostic kinds. -/
inductive DiagnosticKind where
  | generic
  | memory
  | commandNotFound
  | argumentCount
  | fork
  | wait
  | redirection
  | file
deriving DecidableEq, Repr

def DiagnosticKind.message : DiagnosticKind → String
  | .generic => "An error has occurred"
  | .memory => "Failed to allocate memory"
  | .commandNotFound => "Command not found"
  | .argumentCount => "Either too many or too few arguments"
  | .fork => "Process failed to fork"
  | .wait => "Pid fail"
  | .redirection => "Redirection fail"
  | .file => "Error writing or reading file"

inductive Failure where
  /-- A built-in failed for a reason of its own. -/
  | general (detail : Text)
  | redirectionSyntax (detail : Text)
  /-- No directory of the search path holds the program. -/
  | commandNotFound (detail : Text)
  /-- A built-in was called with the wrong number of arguments. -/
  | argumentCount (detail : Text)
  | redirectionFile (detail : Text)
  | fork (detail : Text)
  /-- A child process could not be waited for. -/
  | wait (detail : Text)
  /-- The system refused to run the program. -/
  | exec (name reason : Text)
deriving DecidableEq, Repr

namespace Failure

def kind : Failure → DiagnosticKind
  | .general _ => .generic
  | .redirectionSyntax _ => .redirection
  | .commandNotFound _ => .commandNotFound
  | .argumentCount _ => .argumentCount
  | .redirectionFile _ => .file
  | .fork _ => .fork
  | .wait _ => .wait
  | .exec _ _ => .generic

def detail : Failure → Text
  | .general d => d
  | .redirectionSyntax d => d
  | .commandNotFound d => d
  | .argumentCount d => d
  | .redirectionFile d => d
  | .fork d => d
  | .wait d => d
  | .exec name reason => name ++ Text.ofString ": " ++ reason

/-- The name of the failure in the log. -/
def label : Failure → String
  | .general _ => "ShellError"
  | .redirectionSyntax _ => "RedirectionSyntaxError"
  | .commandNotFound _ => "CommandNotFoundError"
  | .argumentCount _ => "ArgumentCountError"
  | .redirectionFile _ => "RedirectionFileError"
  | .fork _ => "ForkError"
  | .wait _ => "WaitError"
  | .exec _ _ => "ExecError"

/-- The full message: the detail, or the fixed line where there is none. -/
def message (f : Failure) : Text :=
  if f.detail.isEmpty then Text.ofString f.kind.message else f.detail

def render : Failure → Text
  | .exec name reason => name ++ Text.ofString ": " ++ reason
  | f => Text.ofString f.kind.message

end Failure

/-- A failure on its way to the user. -/
structure ShellError where
  failure : Failure
  /-- Set once the message has been written to the redirection target. -/
  redirected : Bool
deriving DecidableEq, Repr

/-- A failure that has not been shown anywhere yet. -/
def Failure.toError (f : Failure) : ShellError := ⟨f, false⟩

end LineShell
