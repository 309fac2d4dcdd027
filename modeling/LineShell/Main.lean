/-
  LineShell/Main.lean
  ===================
  **The command line program.**

  The program reads its words, the files they name and its input, runs the shell
  on them, and writes the two output streams.  It starts no process itself: the
  world around the shell is the empty one.
-/
import LineShell.CommandLine.Run

open LineShell

/-- A word of the command line or a line of input as a text. -/
def textOfString (s : String) : Text := Text.ofString s

partial def readInputs (stream : IO.FS.Stream) : IO (List Input) := do
  let line ← stream.getLine
  if line.isEmpty then return []
  let rest ← readInputs stream
  return .line (textOfString line) :: rest

/-- The file with a name, if it can be read, by its parts from the root. -/
def readNamed (workingDirectory : List Text) (name : Text) :
    IO (List (List Text × FileEntry)) := do
  try
    let bytes ← IO.FS.readBinFile name.display
    return [(Files.placeOf workingDirectory name, .file bytes.toList)]
  catch _ => return []

def main (args : List String) : IO UInt32 := do
  let words := args.map textOfString
  let names := match Options.read words with
    | .ok o => o.files ++ o.config.name?.toList
    | .error _ => []
  let here := Files.placeOf [] (textOfString (← IO.currentDir).toString)
  let entries ← names.mapM (readNamed here)
  let around : CommandLine.Surroundings :=
    { world := .empty
      files := ⟨here, entries.flatten⟩
      homes := ⟨textOfString ((← IO.getEnv "HOME").getD "/"), fun _ => none⟩
      outOfMemory := false }
  let inputs ← readInputs (← IO.getStdin)
  let finished := CommandLine.run around words inputs
  (← IO.getStdout).putStr finished.trace.stdout.display
  (← IO.getStderr).putStr (finished.trace.stderr finished.settings).display
  match finished.result with
  | .ok status => return UInt32.ofNat status.toNat
  | .error _ => return 1
