/-
  LineShell/World/Basic.lean
  ==========================
  **The outside world.**

  The shell asks the system for a handful of things: whether a file can be
  executed, to change directory, to open and write a redirection target, to start
  a program and to wait for it, and to read a history file.  A `World` is the
  table of answers.  Every look-up is by the exact text; no path is normalised.
-/
import LineShell.World.Fault

namespace LineShell

inductive StartOutcome where
  | starts
  | fails (errno : Errno) (reason : Option Text)
  | breaks (kind : Breakdown) (text : Text)
deriving DecidableEq, Repr

inductive WaitOutcome where
  | exits (status : Int)
  | fails (errno : Errno)
  | breaks (kind : Breakdown) (text : Text)
deriving DecidableEq, Repr

structure Program where
  start : StartOutcome
  ending : WaitOutcome
deriving DecidableEq, Repr

/-- A program that starts and exits with status 0. -/
def Program.ordinary : Program := ⟨.starts, .exits 0⟩

structure TargetSpec where
  openErrno : Option Errno
  writeErrno : Option Errno
deriving DecidableEq, Repr

/-- A target that can be opened and written. -/
def TargetSpec.ordinary : TargetSpec := ⟨none, none⟩

/-- Does a number fit a machine word of 32 bits? -/
def fitsWord (n : Int) : Bool := -2147483648 ≤ n && n ≤ 2147483647

structure World where
  program : Text → Option Program
  /-- Why a directory cannot be entered, if it cannot. -/
  directory : Text → Option Errno
  target : Text → TargetSpec
  /-- Why the history file cannot be read, if it cannot. -/
  history : Option Errno
  /-- Is the history kept by a native library?  Such a library takes names as bytes and
      lengths as machine words; any other keeper takes them as they are. -/
  nativeHistory : Bool

namespace World

/-- Nothing is executable, no directory can be entered, every target is
    ordinary, and the history is kept by a native library. -/
def empty : World where
  program _ := none
  directory _ := some .noSuchFile
  target _ := .ordinary
  history := none
  nativeHistory := true

/-- A world that is empty but for these executable files. -/
def ofPrograms (programs : List (Text × Program)) : World :=
  { empty with program := fun path => programs.lookup path }

/-- Is there an executable file at the path? -/
def executable (w : World) (path : Text) : Bool := (w.program path).isSome

end World

end LineShell
