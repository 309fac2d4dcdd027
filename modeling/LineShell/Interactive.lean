/-
  LineShell/Interactive.lean
  ==========================
  **The interactive loop.**

  The loop shows its prompt, reads an input and runs it, until the input
  ends or a command leaves the shell.  An interrupt at the prompt drops the line.
  A line that ends in a fault is logged and answered with the generic diagnostic,
  and the loop goes on; only an interrupt during a command passes through.

  Before the first prompt the history file, if there is one, is read and
  scheduled to be saved.  A file that is missing is no failure.
-/
import LineShell.Line

namespace LineShell

inductive Input where
  | line (text : Text)
  | interrupt
deriving DecidableEq, Repr

/-- Where and how much history is kept. -/
structure History where
  file : Text
  length : Int
deriving DecidableEq, Repr

/-- The prompt unless another is asked for. -/
def defaultPrompt : Text := Text.ofString "wish> "

/-- The number of history entries unless another is asked for. -/
def defaultHistoryLength : Int := 1000

namespace Action

/-- Read the history file and have it saved at the end. -/
def openHistory (h : History) : Action Unit := do
  match ← attempt (readHistory h.file) with
  | .ok () => done ()
  | .error (.system e) =>
    if e.errno ≠ .noSuchFile then
      log .loop .warning
        (Text.ofString "Could not read history file " ++ h.file ++ Text.ofString ": " ++ e.message)
  | .error f => fail f
  saveHistoryAtEnd h.file
  limitHistory h.length

/-- Go on after a line that met a fault: leaving the shell gives its status,
    an interrupt passes through, and the rest is logged and reported. -/
def recover (next : Action Int) : Fault → Action Int
  | .exit status => done status
  | .breakdown .interrupt text => fail (.breakdown .interrupt text)
  | f => do
    logFault .loop (Text.ofString "Dispatch failed") f
    reportKind .generic
    next

/-- Read and run inputs until they end; the status of the shell is returned. -/
def interact (prompt : Text) : List Input → Action Int
  | [] => do
    leave [.prompt prompt]
    done 0
  | .interrupt :: rest => do
    leave [.prompt prompt, .lineEnd]
    interact prompt rest
  | .line text :: rest => do
    leave [.prompt prompt]
    match ← attempt (runFirstLine text) with
    | .ok _ => interact prompt rest
    | .error f => recover (interact prompt rest) f

def interactive (prompt : Text) (history : Option History) (inputs : List Input) : Action Int := do
  match history with
  | none => done ()
  | some h => openHistory h
  interact prompt inputs

end Action

/-- How many of the inputs a run left unread. -/
def unreadInputs (inputs : List Input) (t : Trace) : Nat := inputs.length - t.reads

end LineShell
