/-
  LineShell/Builtin.lean
  ======================
  **Built-in commands.**

  Three commands change the shell itself and so run inside it: `exit` leaves it,
  `cd` changes the working directory, and `path` replaces the search path.  A
  built-in is recognised by its exact name.  Its failures are reported and count
  as handled.
-/
import LineShell.Command.Basic
import LineShell.SearchPath

namespace LineShell

inductive Builtin where
  | exit
  | cd
  | path
deriving DecidableEq, Repr

namespace Builtin

def all : List Builtin := [.cd, .exit, .path]

def name : Builtin → String
  | .exit => "exit"
  | .cd => "cd"
  | .path => "path"

def description : Builtin → String
  | .exit => "Exit the shell"
  | .cd => "Change the working directory"
  | .path => "Replace the command search path"

def named? (t : Text) : Option Builtin := all.find? fun b => Text.ofString b.name == t

end Builtin

namespace Action

/-- Leave the shell; no operand is allowed. -/
def exitShell (operands : List Text) : Action Unit :=
  if operands.isEmpty then do
    log .builtins .info (Text.ofString "Exiting shell...")
    fail (.exit 0)
  else
    failWith (.argumentCount
      (Text.ofString "exit takes no arguments, got " ++ Text.ofNat operands.length))

def changeDirectory (operands : List Text) : Action Unit :=
  match operands with
  | [d] => do
    match ← attempt (chdir d) with
    | .ok () => log .builtins .debug (Text.ofString "Working directory: " ++ d)
    | .error f =>
      failWith (.general
        (Text.ofString "cd " ++ d.quoted ++ Text.ofString ": " ++ f.message))
  | _ =>
    failWith (.argumentCount
      (Text.ofString "cd takes one argument, got " ++ Text.ofNat operands.length))

/-- Replace the search path by a copy of the operands; without memory for the
    copy the path stays as it is. -/
def changePath (copy : Option (List Text)) : Action Unit :=
  match copy with
  | none => reportKind .memory
  | some directories => replacePath directories

def executeBuiltin : Builtin → List Text → Action Unit
  | .exit, operands => exitShell operands
  | .cd, operands => changeDirectory operands
  | .path, operands => changePath (some operands)

/-- Run an action and report the failure it may end with. -/
def reporting (a : Action Unit) : Action Unit := do
  match ← attempt a with
  | .ok () => done ()
  | .error (.reported e) => report e
  | .error f => fail f

/-- Run a built-in and report its failure. -/
def runBuiltin (b : Builtin) (c : Command) : Action Unit := do
  log .builtins .debug
    (Text.ofString "Builtin " ++ Text.ofString b.name ++ Text.ofString " (" ++
      Text.ofString b.description ++ Text.ofString "): " ++ Text.quotedList c.operands)
  reporting (executeBuiltin b c.operands)

/-- Handle the command if it names a built-in. -/
def handleBuiltin (c : Command) : Action Bool :=
  match Builtin.named? c.name with
  | none => done false
  | some b => do
    runBuiltin b c
    done true

end Action

end LineShell
