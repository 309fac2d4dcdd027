/-
  LineShell/World/Fault.lean
  ==========================
  **How an action can end early.**

  An action of the shell ends early in one of eight ways: the user asked to leave,
  a failure is on its way to be reported, a system call failed, a text held a NUL
  character or a symbol that no bytes spell, a number did not fit a machine word, a
  child process was to be started without a name, or something outside the shell
  broke in.  The first three are part of the shell's own behaviour; the shell turns
  all it can into reported failures.
-/
import LineShell.Diagnostic
import LineShell.World.Errno

namespace LineShell

/-- A failed system call: its number, the reason it gave, and the file it names. -/
structure SystemError where
  errno : Errno
  /-- The system's own wording; a call may leave it out. -/
  reason : Option Text
  file : Option Text
deriving DecidableEq, Repr

namespace SystemError

/-- A failure with its standard text that names no file. -/
def ofErrno (e : Errno) : SystemError := ⟨e, some (Text.ofString e.text), none⟩

/-- A failure with its standard text about a file. -/
def about (e : Errno) (file : Text) : SystemError :=
  ⟨e, some (Text.ofString e.text), some file⟩

/-- The number in brackets, the reason, and the quoted file name if there is one. -/
def message (e : SystemError) : Text :=
  Text.ofString "[Errno " ++ Text.ofNat e.errno.number ++ Text.ofString "] " ++
    e.reason.getD (Text.ofString "None") ++
    match e.file with
    | none => []
    | some f => Text.ofString ": " ++ f.quoted

/-- The reason given, or the standard text where the call gave none. -/
def reasonOrStandard (e : SystemError) : Text :=
  match e.reason with
  | some (s :: rest) => s :: rest
  | _ => Text.ofString e.errno.text

end SystemError

/-- What can break in from outside the shell. -/
inductive Breakdown where
  | runtime
  | interrupt
  | memory
deriving DecidableEq, Repr

/-- The name of a breakdown in a log. -/
def Breakdown.label : Breakdown → String
  | .runtime => "RuntimeError"
  | .interrupt => "KeyboardInterrupt"
  | .memory => "MemoryError"

inductive Fault where
  /-- The shell is to leave with this status. -/
  | exit (status : Int)
  | reported (e : ShellError)
  /-- A system call failed outside the calls whose failures are reported. -/
  | system (e : SystemError)
  /-- A text for the outside world holds a NUL character. -/
  | nulCharacter
  /-- The text was to be written as bytes and holds half of a surrogate pair. -/
  | unspellable (text : Text)
  /-- A number for the outside world does not fit a machine word. -/
  | outOfRange
  /-- A process was to be started with an empty argument list. -/
  | namelessProcess
  | breakdown (kind : Breakdown) (text : Text)
deriving DecidableEq, Repr

namespace Fault

/-- The name of a fault in a log. -/
def label : Fault → String
  | .exit _ => "SystemExit"
  | .reported e => e.failure.label
  | .system e => e.errno.label
  | .nulCharacter => "ValueError"
  | .unspellable _ => "UnicodeEncodeError"
  | .outOfRange => "OverflowError"
  | .namelessProcess => "IndexError"
  | .breakdown kind _ => kind.label

def message : Fault → Text
  | .exit status => Text.ofInt status
  | .reported e => e.failure.message
  | .system e => e.message
  | .nulCharacter => Text.ofString "embedded null byte"
  | .unspellable text =>
    match text.unspellable with
    | some (place, symbols) => Text.unspellableMessage symbols place
    | none => []
  | .outOfRange => Text.ofString "Python int too large to convert to C int"
  | .namelessProcess => Text.ofString "list index out of range"
  | .breakdown _ text => text

end Fault

end LineShell
