/-
  LineShell/SearchPath.lean
  =========================
  **Resolving a command name.**

  A name is looked up in the directories of the search path, in order, and the
  first candidate that the world calls executable wins.  A candidate that holds a
  NUL character cannot exist and is passed over without asking.
  `firstExecutable` states the answer without the questions.
-/
import LineShell.World.Call

namespace LineShell

/-- The file that a directory would hold for a name. -/
def candidate (directory name : Text) : Text := directory ++ Text.ofString "/" ++ name

/-- The first candidate that the world can execute. -/
def firstExecutable (w : World) (name : Text) (directories : List Text) : Option Text :=
  (directories.map (candidate · name)).find? fun c => !c.hasNul && w.executable c

namespace Action

def searchDirectories (name : Text) : List Text → Action (Option Text)
  | [] => do
    log .searchPath .debug (Text.ofString "Could not resolve " ++ name)
    done none
  | d :: rest =>
    let c := candidate d name
    if c.hasNul then searchDirectories name rest
    else do
      if ← access c then
        log .searchPath .debug (Text.ofString "Resolved " ++ name ++ Text.ofString " -> " ++ c)
        done (some c)
      else searchDirectories name rest

/-- The program that a name stands for; the empty name stands for none. -/
def resolve (name : Text) (directories : List Text) : Action (Option Text) :=
  if name.isEmpty then done none else searchDirectories name directories

def replacePath (directories : List Text) : Action Unit := do
  modify fun s => { s with path := directories }
  log .searchPath .debug (Text.ofString "Search path set to " ++ Text.quotedList directories)

end Action

/-- The form of a search path in logs. -/
def displayPath (directories : List Text) : Text :=
  Text.ofString "SearchPath(" ++ Text.quotedList directories ++ Text.ofString ")"

end LineShell
