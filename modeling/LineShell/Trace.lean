/-
  LineShell/Trace.lean
  ====================
  **What a run leaves behind.**

  A run leaves one chronological trace: calls to the outside world, diagnostics,
  log records, and what was written to the prompt's stream.  All that can be
  observed of a run is a view of it: `events` lists the calls, `stdout` and
  `stderr` are the two output streams.

  Log records are always in the trace.  How much of the log is wanted decides
  only how `stderr` shows them, so a run cannot depend on it.
-/
import LineShell.World.Fault

namespace LineShell

abbrev Pid := Nat

/-- A call to the outside world that took effect. -/
inductive Event where
  | access (path : Text) (executable : Bool)
  | chdir (directory : Text)
  | openTarget (target : Text)
  | writeTarget (target content : Text)
  | flushTarget (target : Text)
  | closeTarget (target : Text)
  | spawn (pid : Pid) (path : Text) (argv : List Text) (stdout stderr : Option Text)
  | wait (pid : Pid)
  | historyRead (file : Text)
  | historyLength (length : Int)
  | historySave (file : Text)
deriving DecidableEq, Repr

/-! ### Log records -/

inductive LogLevel where
  | debug
  | info
  | warning
  | error
deriving DecidableEq, Repr

namespace LogLevel

def label : LogLevel → String
  | .debug => "DEBUG"
  | .info => "INFO"
  | .warning => "WARNING"
  | .error => "ERROR"

def severity : LogLevel → Nat
  | .debug => 0
  | .info => 1
  | .warning => 2
  | .error => 3

end LogLevel

/-- The part of the shell that a record comes from. -/
inductive LogSource where
  | commandLine
  | diagnostics
  | parser
  | searchPath
  | builtins
  | launch
  | line
  | loop
deriving DecidableEq, Repr

/-- The name of a part in a stamped record. -/
def LogSource.label : LogSource → String
  | .commandLine => "wish.cli"
  | .diagnostics => "wish.lib.diagnostics"
  | .parser => "wish.shell.parser"
  | .searchPath => "wish.shell.resolver"
  | .builtins => "wish.shell.builtins"
  | .launch => "wish.shell.executor"
  | .line => "wish.shell.dispatcher"
  | .loop => "wish.shell.repl"

/-- One log record; `cause` is the fault it logs, if it logs one. -/
structure LogRecord where
  source : LogSource
  level : LogLevel
  message : Text
  cause : Option Fault
deriving DecidableEq, Repr

/-- What is wanted of the log: from the given level upwards, and whether each
    record is stamped with time, part and level. -/
structure LogSettings where
  threshold : LogLevel
  stamped : Bool
deriving DecidableEq, Repr

namespace LogSettings

/-- Before logging is set up, warnings and errors show as bare messages. -/
def unconfigured : LogSettings := ⟨.warning, false⟩

/-- Everything, stamped. -/
def verbose : LogSettings := ⟨.debug, true⟩

/-- The settings that a command line asks for; asking for quiet wins. -/
def ofFlags (verbose quiet : Bool) : LogSettings :=
  ⟨if quiet then .error else if verbose then .debug else .warning, true⟩

end LogSettings

namespace LogRecord

def shown (settings : LogSettings) (r : LogRecord) : Bool :=
  settings.threshold.severity ≤ r.level.severity

/-- The stamp in front of a message. -/
def stamp (r : LogRecord) : Text :=
  Text.ofString "00:00:00 - " ++ Text.ofString r.source.label ++ Text.ofString " - " ++
    Text.ofString r.level.label ++ Text.ofString " - "

/-- The lines of a record: its message, and its cause on a line of its own. -/
def lines (settings : LogSettings) (r : LogRecord) : Text :=
  (if settings.stamped then r.stamp else []) ++ r.message ++ Text.ofString "\n" ++
    match r.cause with
    | none => []
    | some f => Text.ofString "Traceback: " ++ Text.ofString f.label ++ Text.ofString ": " ++
        f.message ++ Text.ofString "\n"

/-- What a record adds to the error stream. -/
def render (settings : LogSettings) (r : LogRecord) : Text :=
  if r.shown settings then r.lines settings else []

end LogRecord

/-! ### Traces and their views -/

/-- One thing that a run left behind. -/
inductive Entry where
  | event (e : Event)
  | diagnostic (line : Text)
  | log (r : LogRecord)
  /-- Text for the reader of the output stream. -/
  | output (text : Text)
  /-- The prompt was written, to read an input. -/
  | prompt (text : Text)
  /-- An input was interrupted: its line ends. -/
  | lineEnd
deriving DecidableEq, Repr

/-- Entries in the order in which they arose. -/
abbrev Trace := List Entry

namespace Trace

/-- The calls to the outside world. -/
def events (t : Trace) : List Event :=
  t.filterMap fun
    | .event e => some e
    | _ => none

def diagnostics (t : Trace) : List Text :=
  t.filterMap fun
    | .diagnostic line => some line
    | _ => none

def stdout (t : Trace) : Text :=
  t.flatMap fun
    | .output text => text
    | .prompt text => text
    | .lineEnd => [.char '\n']
    | _ => []

/-- The diagnostics alone, each on a line of its own. -/
def diagnosticText (t : Trace) : Text :=
  t.flatMap fun
    | .diagnostic line => line ++ [.char '\n']
    | _ => []

def logText (settings : LogSettings) (t : Trace) : Text :=
  t.flatMap fun
    | .log r => r.render settings
    | _ => []

/-- The error stream: diagnostics and the log records that are wanted. -/
def stderr (settings : LogSettings) (t : Trace) : Text :=
  t.flatMap fun
    | .diagnostic line => line ++ [.char '\n']
    | .log r => r.render settings
    | _ => []

/-- How many inputs were asked for, the one at the end of the input included. -/
def reads (t : Trace) : Nat :=
  t.countP fun
    | .prompt _ => true
    | _ => false

@[simp] theorem events_append (s t : Trace) : events (s ++ t) = events s ++ events t := by
  simp [events]

@[simp] theorem diagnostics_append (s t : Trace) :
    diagnostics (s ++ t) = diagnostics s ++ diagnostics t := by
  simp [diagnostics]

@[simp] theorem stdout_append (s t : Trace) : stdout (s ++ t) = stdout s ++ stdout t := by
  simp [stdout]

@[simp] theorem stderr_append (settings : LogSettings) (s t : Trace) :
    stderr settings (s ++ t) = stderr settings s ++ stderr settings t := by
  simp [stderr]

@[simp] theorem reads_append (s t : Trace) : reads (s ++ t) = reads s + reads t := by
  simp [reads]

end Trace

/-- The process numbers of the children that were started, in order. -/
def Trace.spawnedPids (t : Trace) : List Pid :=
  t.events.filterMap fun
    | .spawn pid _ _ _ _ => some pid
    | _ => none

/-- The process numbers of the children that were waited for, in order. -/
def Trace.waitedPids (t : Trace) : List Pid :=
  t.events.filterMap fun
    | .wait pid => some pid
    | _ => none

end LineShell
