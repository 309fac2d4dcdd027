/-
  LineShell/CommandLine/Run.lean
  ==============================
  **The program.**

  The command line gives at most one batch file and an optional configuration.
  With a batch file the shell runs it, and without one it is interactive.  Status
  1 is kept for runs that never start: an invocation that does not fit, a
  configuration that cannot be loaded, a batch file that cannot be read.
-/
import LineShell.Batch
import LineShell.CommandLine.Options
import LineShell.Config.Load

namespace LineShell.CommandLine

structure Surroundings where
  world : World
  files : Files
  homes : Homes
  /-- Loading the configuration runs out of memory. -/
  outOfMemory : Bool

/-- A fault that ends the program without a status. -/
inductive ProgramFault where
  | action (f : Fault)
  | load (f : LoadFault)
deriving DecidableEq, Repr

/-- How the program ended, what it left, and how its log is shown. -/
structure Finished where
  result : Except ProgramFault Int
  settings : LogSettings
  trace : Trace

/-- The text that explains the command line. -/
def help : String :=
  "usage: wish [-h] [--config PATH] [--verbose] [--quiet] [FILE ...]\n\n" ++
  "Line-oriented command shell (interactive, or batch with a file)\n\n" ++
  "positional arguments:\n" ++
  "  FILE                  Run commands from FILE instead of prompting\n\n" ++
  "options:\n" ++
  "  -h, --help            show this help message and exit\n" ++
  "  --config PATH, -c PATH\n" ++
  "                        YAML configuration file (search path, prompt, history)\n" ++
  "  --verbose, -v         Enable verbose (debug) logging\n" ++
  "  --quiet, -q           Only log errors\n"

open LineShell.Action

/-- Log an error, show the line of a kind, and end with status 1. -/
def reject (message : Text) (kind : DiagnosticKind) : Action Int := do
  log .commandLine .error message
  reportKind kind
  done 1

def readBatch (files : Files) (name : Text) : Action (List UInt8) := do
  refuseNul name
  match files.read name with
  | .ok content => done content
  | .error e => fail (.system (.about e name))

/-- Run a batch file; a system error is one of the file. -/
def runBatch (files : Files) (name : Text) : Action Int := do
  log .commandLine .debug (Text.ofString "Running batch file " ++ name)
  match ← attempt (do runScript (← readBatch files name)) with
  | .ok status => done status
  | .error (.system e) =>
    reject (Text.ofString "Cannot read batch file " ++ name ++ Text.ofString ": " ++ e.message)
      .generic
  | .error f => fail f

def runInteractive (c : Config) (inputs : List Input) : Action Int := do
  log .commandLine .debug (Text.ofString "Starting interactive shell")
  interactive c.prompt c.history inputs

def runShell (files : Files) (c : Config) (batch : Option Text) (inputs : List Input) :
    Action Int :=
  match batch with
  | none => runInteractive c inputs
  | some name => runBatch files name

/-- End the program as an action ends. -/
def conclude (around : Surroundings) (settings : LogSettings) (path : List Text)
    (a : Action Int) : Finished :=
  let o := a around.world (Session.start path)
  ⟨o.result.mapError .action, settings, o.trace⟩

/-- The configuration that is asked for, or the defaults. -/
def loadConfig (around : Surroundings) : ConfigSource → Except LoadFault Config
  | .defaults => .ok Config.default
  | .file name => Config.load around.homes around.files name
  | .noName => .error .noName

/-- Run the shell with options that fit. -/
def runWith (around : Surroundings) (o : Options) (inputs : List Input) : Finished :=
  let settings := LogSettings.ofFlags o.verbose o.quiet
  let rejected (a : Action Int) : Finished := conclude around settings defaultPath a
  match o.files with
  | _ :: _ :: _ =>
    rejected (reject
      (Text.ofString "Expected at most one batch file, got " ++ Text.ofNat o.files.length)
      .argumentCount)
  | files =>
    if around.outOfMemory then
      rejected do
        reportKind .memory
        done 1
    else
      match loadConfig around o.config with
      | .ok c => conclude around settings c.path (runShell around.files c files.head? inputs)
      | .error f =>
        if f.isReported then
          rejected (reject (Text.ofString "Failed to load configuration: " ++ f.message) .generic)
        else ⟨.error (.load f), settings, []⟩

def run (around : Surroundings) (words : List Text) (inputs : List Input) : Finished :=
  match Options.read words with
  | .ok o => runWith around o inputs
  | .error .help => ⟨.ok 0, .unconfigured, [.output (Text.ofString help)]⟩
  | .error .invalid => conclude around .unconfigured defaultPath do
      reportKind .argumentCount
      done 1

end LineShell.CommandLine
