/-
  LineShell/Line.lean
  ===================
  **Running a line.**

  A line is parsed segment by segment, malformed segments being reported.  Its
  commands are then run in order: a built-in inside the shell, any other command
  as a child that is not waited for yet.  At the end every child of the line is
  awaited, in the order of launch, so that none is running when the next line is
  read.

  A failure that can be reported stops only its own command.  Anything else stops
  the line after its children have been awaited, except for leaving the shell,
  which leaves the children behind.
-/
import LineShell.Builtin
import LineShell.Command.Parser
import LineShell.Launch

namespace LineShell

inductive Step where
  | builtin
  | launched (child : Child)
  | failed
deriving DecidableEq, Repr

structure LineResult where
  commands : List Command
  builtins : Nat
  launched : Nat
  failed : Nat
  /-- The status of each child in launch order; none where waiting failed. -/
  statuses : List (Option Int)
deriving DecidableEq, Repr

namespace Step

def children (steps : List Step) : List Child :=
  steps.filterMap fun
    | .launched child => some child
    | _ => none

/-- The result of a line whose children have been awaited. -/
def summarize (commands : List Command) (steps : List Step) (statuses : List (Option Int)) :
    LineResult where
  commands
  builtins := steps.count .builtin
  launched := (children steps).length
  failed := steps.count .failed
  statuses

end Step

/-- Statuses as they are shown in logs. -/
def displayStatuses (statuses : List (Option Int)) : Text :=
  Text.ofString "[" ++
    Text.joinWith (Text.ofString ", ")
      (statuses.map fun
        | some n => Text.ofInt n
        | none => Text.ofString "None") ++
    Text.ofString "]"

namespace Action

/-! ### Parsing a line -/

/-- Note the outcome of parsing each segment: commands are logged and returned,
    malformed segments are reported. -/
def noteParsed : List (Except SyntaxFault Command) → Action (List Command)
  | [] => done []
  | .ok c :: rest => do
    log .parser .debug (Text.ofString "Parsed " ++ c.display)
    let commands ← noteParsed rest
    done (c :: commands)
  | .error f :: rest => do
    report f.toFailure.toError
    noteParsed rest

def parseReporting (line : Text) : Action (List Command) := noteParsed line.recoverLine

/-! ### Running its commands -/

/-- Start an external command on the search path of the session. -/
def launchHere (c : Command) : Action Child := do
  launch c (← session).path

/-- Run one command; a failure that can be reported is. -/
def runCommand (c : Command) : Action Step := do
  if ← handleBuiltin c then done .builtin
  else
    match ← attempt (launchHere c) with
    | .ok child => done (.launched child)
    | .error (.reported e) => do
      report e
      done .failed
    | .error f => fail f

/-- Run commands in order up to the first fault.  The steps before it are
    returned beside it, since their children are still running. -/
def runCommands : List Command → Action (List Step × Option Fault)
  | [] => done ([], none)
  | c :: rest => do
    match ← attempt (runCommand c) with
    | .error f => done ([], some f)
    | .ok step => do
      let (steps, fault) ← runCommands rest
      done (step :: steps, fault)

/-! ### Awaiting its children -/

/-- Wait for a child; a wait that fails is reported and gives no status. -/
def reap (child : Child) : Action (Option Int) := do
  match ← attempt (wait child) with
  | .ok status => done (some status)
  | .error (.reported e) => do
    report e
    done none
  | .error f => fail f

def waitAll : List Child → Action (List (Option Int))
  | [] => done []
  | child :: rest => do
    let status ← reap child
    let statuses ← waitAll rest
    done (status :: statuses)

/-! ### The whole line -/

/-- Wait for the children of a line whose commands ran without a fault. -/
def concludeLine (commands : List Command) (steps : List Step) : Action LineResult := do
  let statuses ← waitAll (Step.children steps)
  let result := Step.summarize commands steps statuses
  if result.launched ≠ 0 then
    log .line .debug
      (Text.ofString "Reaped " ++ Text.ofNat result.launched ++
        Text.ofString " children, statuses " ++ displayStatuses statuses)
  done result

/-- End a line that met a fault: leaving the shell abandons its children, any
    other fault awaits them first. -/
def abandonLine (steps : List Step) (fault : Fault) : Action LineResult :=
  match fault with
  | .exit status => fail (.exit status)
  | f => do
    let _ ← waitAll (Step.children steps)
    fail f

def runLine (line : Text) : Action LineResult := do
  let commands ← parseReporting line
  let (steps, fault) ← runCommands commands
  match fault with
  | none => concludeLine commands steps
  | some f => abandonLine steps f

/-- Run a text as one line: what follows its first line feed is dropped. -/
def runFirstLine (text : Text) : Action LineResult := runLine text.firstLine

end Action

end LineShell
