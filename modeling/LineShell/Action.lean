/-
  LineShell/Action.lean
  =====================
  **Actions of the shell.**

  An action asks the world, changes the session and leaves a trace; it ends with
  a value or with a fault.  Whatever it did before a fault stays done: the session
  and the trace are part of every outcome.  The trace of two actions in a row is
  the trace of the first followed by that of the second.
-/
import LineShell.Trace
import LineShell.World.Basic

namespace LineShell

/-- What the shell carries from one command to the next. -/
structure Session where
  path : List Text
  /-- How many children have been started. -/
  spawned : Nat
deriving DecidableEq, Repr

/-- The search path before it is changed. -/
def defaultPath : List Text := [Text.ofString "/bin"]

def Session.start (path : List Text) : Session := ⟨path, 0⟩

/-- The process number of the next child. -/
def Session.nextPid (s : Session) : Pid := 101 + s.spawned

/-- How an action ended, and what it left. -/
structure Outcome (α : Type) where
  result : Except Fault α
  session : Session
  trace : Trace

def Action (α : Type) : Type := World → Session → Outcome α

namespace Action

variable {α β : Type}

def run (a : Action α) (w : World) (s : Session) : Outcome α := a w s

def done (a : α) : Action α := fun _ s => ⟨.ok a, s, []⟩

def fail (f : Fault) : Action α := fun _ s => ⟨.error f, s, []⟩

/-- One action after another; a fault of the first ends both. -/
def andThen (a : Action α) (next : α → Action β) : Action β := fun w s =>
  let first := a w s
  match first.result with
  | .error f => ⟨.error f, first.session, first.trace⟩
  | .ok x =>
    let second := next x w first.session
    ⟨second.result, second.session, first.trace ++ second.trace⟩

instance : Monad Action where
  pure := done
  bind := andThen

/-- Run an action and return how it ended. -/
def attempt (a : Action α) : Action (Except Fault α) := fun w s =>
  let o := a w s
  ⟨.ok o.result, o.session, o.trace⟩

/-- Run an action, and `last` after it however it ends; the result is that of the
    action unless `last` itself faults. -/
def ensuring (a : Action α) (last : Action Unit) : Action α := do
  let result ← attempt a
  last
  match result with
  | .ok x => done x
  | .error f => fail f

/-! ### Looking at the run -/

def world : Action World := fun w s => ⟨.ok w, s, []⟩

def session : Action Session := fun _ s => ⟨.ok s, s, []⟩

def modify (f : Session → Session) : Action Unit := fun _ s => ⟨.ok (), f s, []⟩

/-! ### Leaving a trace -/

def leave (entries : Trace) : Action Unit := fun _ s => ⟨.ok (), s, entries⟩

/-- A call to the outside world took effect. -/
def emit (e : Event) : Action Unit := leave [.event e]

def log (source : LogSource) (level : LogLevel) (message : Text) : Action Unit :=
  leave [.log ⟨source, level, message, none⟩]

def logFault (source : LogSource) (message : Text) (cause : Fault) : Action Unit :=
  leave [.log ⟨source, .error, message, some cause⟩]

/-- Show the fixed line of a kind. -/
def reportKind (kind : DiagnosticKind) : Action Unit :=
  leave [.diagnostic (Text.ofString kind.message)]

/-- Show a failure once: one that has been written to a redirection target is
    only logged. -/
def report (e : ShellError) : Action Unit :=
  if e.redirected then
    log .diagnostics .debug
      (Text.ofString e.failure.label ++ Text.ofString " already written to redirection target")
  else do
    if !e.failure.detail.isEmpty then
      log .diagnostics .debug
        (Text.ofString e.failure.label ++ Text.ofString ": " ++ e.failure.detail)
    leave [.diagnostic e.failure.render]

/-- End with a failure that has not been shown yet. -/
def failWith (f : Failure) : Action α := fail (.reported f.toError)

/-- A text that holds a NUL character is refused before any call. -/
def refuseNul (t : Text) : Action Unit :=
  if t.hasNul then fail .nulCharacter else done ()

/-- A text that no bytes spell is refused before anything of it is written. -/
def refuseUnspellable (t : Text) : Action Unit :=
  if t.hasHalf then fail (.unspellable t) else done ()

/-! ### Sequences -/

section Laws

variable (w : World) (s : Session)

@[simp] theorem pure_apply (a : α) : (pure a : Action α) w s = ⟨.ok a, s, []⟩ := rfl

@[simp] theorem fail_apply (f : Fault) : (fail f : Action α) w s = ⟨.error f, s, []⟩ := rfl

/-- After a fault, the second action does not run. -/
theorem bind_error {a : Action α} {next : α → Action β} {f : Fault}
    (h : (a w s).result = .error f) :
    (a >>= next) w s = ⟨.error f, (a w s).session, (a w s).trace⟩ := by
  simp [bind, andThen, h]

end Laws

end Action

end LineShell
