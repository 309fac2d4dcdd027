/-
  LineShell/World/Call.lean
  =========================
  **Calls to the outside world.**

  Each call looks up its answer in the world.  A call that takes effect leaves
  one event; a call that fails leaves none and ends with a fault.  A text that
  holds a NUL character is refused before anything else happens.
-/
import LineShell.Action

namespace LineShell.Action

/-- End with a system error that names no file. -/
def failErrno {α : Type} (e : Errno) : Action α := fail (.system (.ofErrno e))

/-- Ask whether a file can be executed. -/
def access (path : Text) : Action Bool := do
  refuseNul path
  let w ← world
  emit (.access path (w.executable path))
  done (w.executable path)

def chdir (directory : Text) : Action Unit := do
  refuseNul directory
  match (← world).directory directory with
  | some e => fail (.system (.about e directory))
  | none => emit (.chdir directory)

def openTarget (target : Text) : Action Unit := do
  refuseNul target
  match ((← world).target target).openErrno with
  | some e => fail (.system (.about e target))
  | none => emit (.openTarget target)

def writeTarget (target content : Text) : Action Unit := do
  match ((← world).target target).writeErrno with
  | some e => failErrno e
  | none => emit (.writeTarget target content)

def flushTarget (target : Text) : Action Unit := emit (.flushTarget target)

def closeTarget (target : Text) : Action Unit := emit (.closeTarget target)

/-- Start a program with an argument list, both output streams going to the
    target if there is one; the child's number and how it will end are
    returned. -/
def startProcess (path : Text) (argv : List Text) (target : Option Text) :
    Action (Pid × WaitOutcome) := do
  if path.hasNul || argv.any Text.hasNul then fail .nulCharacter
  else
    match (← world).program path with
    | none => failErrno .noSuchFile
    | some program =>
      match program.start with
      | .fails e reason => fail (.system ⟨e, reason, none⟩)
      | .breaks kind text => fail (.breakdown kind text)
      | .starts =>
        let pid := (← session).nextPid
        modify fun s => { s with spawned := s.spawned + 1 }
        emit (.spawn pid path argv target target)
        done (pid, program.ending)

/-- Wait for a child; waiting itself takes effect whatever it answers. -/
def waitProcess (pid : Pid) (ending : WaitOutcome) : Action Int := do
  emit (.wait pid)
  match ending with
  | .exits status => done status
  | .fails e => failErrno e
  | .breaks kind text => fail (.breakdown kind text)

/-- A native keeper of the history takes the name of its file as bytes, before it looks for a
    NUL in them. -/
def refuseHistoryName (file : Text) : Action Unit := do
  let w ← world
  if w.nativeHistory && file.hasHalf then fail (.unspellable file) else refuseNul file

/-- Read the history file; the call counts even where it fails. -/
def readHistory (file : Text) : Action Unit := do
  refuseHistoryName file
  emit (.historyRead file)
  match (← world).history with
  | some e => failErrno e
  | none => done ()

/-- Keep at most so many history entries. -/
def limitHistory (length : Int) : Action Unit := do
  let w ← world
  if w.nativeHistory && !fitsWord length then fail .outOfRange else emit (.historyLength length)

/-- Have the history written to the file when the shell ends. -/
def saveHistoryAtEnd (file : Text) : Action Unit := emit (.historySave file)

end LineShell.Action
