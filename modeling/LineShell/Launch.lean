/-
  LineShell/Launch.lean
  =====================
  **Starting and awaiting programs.**

  An external command is resolved, its target is opened, and its program is
  started with both output streams going to the target.  The target is closed
  again however the start ends.  When the system refuses the program, the message
  goes where the program's own errors would have gone: into the target if there is
  one, to the user otherwise.
-/
import LineShell.Command.Basic
import LineShell.SearchPath

namespace LineShell

/-- A started child: its name as typed, its program, its process number, and how
    it will end. -/
structure Child where
  name : Text
  path : Text
  pid : Pid
  ending : WaitOutcome
deriving DecidableEq, Repr

namespace Action

/-- The name that an argument list starts with. -/
def nameOf : List Text → Action Text
  | [] => fail .namelessProcess
  | name :: _ => done name

/-- End with a refused program, after writing its message to the target if there
    is one.  The message is turned into bytes before any of it is written. -/
def refuse {α : Type} (name reason : Text) : Option Text → Action α
  | none => failWith (.exec name reason)
  | some t => do
    let message := (Failure.exec name reason).render ++ Text.ofString "\n"
    refuseUnspellable message
    writeTarget t message
    flushTarget t
    fail (.reported ⟨.exec name reason, true⟩)

/-- Open the target, if any; a target that cannot be opened is a failure of the
    command. -/
def openRedirection : Option Text → Action Unit
  | none => done ()
  | some t => do
    match ← attempt (openTarget t) with
    | .ok () => done ()
    | .error f => failWith (.redirectionFile (t ++ Text.ofString ": " ++ f.message))

def closeRedirection : Option Text → Action Unit
  | none => done ()
  | some t => closeTarget t

/-- Start the program, turning a refusal into a failure of the command. -/
def startOrRefuse (path : Text) (argv : List Text) (target : Option Text) :
    Action (Pid × WaitOutcome) := do
  match ← attempt (startProcess path argv target) with
  | .ok started => done started
  | .error .nulCharacter => do
    refuse (← nameOf argv) Fault.nulCharacter.message target
  | .error (.system e) => do
    let name ← nameOf argv
    if e.errno.refusesFile then refuse name e.reasonOrStandard target
    else failWith (.fork (name ++ Text.ofString ": " ++ e.message))
  | .error f => fail f

def spawn (path : Text) (argv : List Text) (target : Option Text) : Action Child := do
  openRedirection target
  let (pid, ending) ← ensuring (startOrRefuse path argv target) (closeRedirection target)
  let name ← nameOf argv
  log .launch .debug
    (Text.ofString "Started " ++ name ++ Text.ofString " (" ++ path ++ Text.ofString ") as pid " ++
      Text.ofNat pid)
  done ⟨name, path, pid, ending⟩

def wait (child : Child) : Action Int := do
  match ← attempt (waitProcess child.pid child.ending) with
  | .ok status => do
    log .launch .debug
      (Text.ofString "Reaped " ++ child.name ++ Text.ofString " (pid " ++ Text.ofNat child.pid ++
        Text.ofString ") with status " ++ Text.ofInt status)
    done status
  | .error (.system e) =>
    failWith (.wait
      (Text.ofString "pid " ++ Text.ofNat child.pid ++ Text.ofString ": " ++ e.message))
  | .error f => fail f

def launch (c : Command) (directories : List Text) : Action Child := do
  match ← resolve c.name directories with
  | none => failWith (.commandNotFound c.name)
  | some path => spawn path c.args c.target

end Action

end LineShell
