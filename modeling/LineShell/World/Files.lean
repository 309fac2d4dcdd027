/-
  LineShell/World/Files.lean
  ==========================
  **Files.**

  Files and directories lie in one tree and are listed by the parts of their
  names from its root.  A name that does not start at the root is looked up from
  the working directory.  The look-up goes part by part: every part but the last
  has to name a directory, and a slash at the end asks for one too.
-/
import LineShell.Text.Encoding
import LineShell.World.Errno

namespace LineShell

inductive FileEntry where
  | file (content : List UInt8)
  | directory
deriving DecidableEq, Repr

/-- The files that are known, by the parts of their names, and the working
    directory. -/
structure Files where
  workingDirectory : List Text
  entries : List (List Text × FileEntry)

namespace Files

/-- The parts of a name between its slashes. -/
def partsOf (name : Text) : List Text := Text.cutWhere (Symbol.is '/') name

/-- What the parts stand for.  The working directory and every directory that
    something lies in exist. -/
def entry (files : Files) (parts : List Text) : Option FileEntry :=
  match files.entries.lookup parts with
  | some e => some e
  | none =>
    if parts.isPrefixOf files.workingDirectory || files.entries.any (parts.isPrefixOf ·.1) then
      some .directory
    else none

/-- The most bytes in one part of a name. -/
def longestPart : Nat := 255

/-- The most bytes in a whole name. -/
def longestName : Nat := 4095

/-- The directory from which a name is looked up. -/
def baseOf (workingDirectory : List Text) (name : Text) : List Text :=
  if name.head? = some (.char '/') then [] else workingDirectory

/-- Does a part of a name stay where it is? -/
def stays (part : Text) : Bool := part.isEmpty || part == Text.ofString "."

/-- Does a part of a name lead to the directory above?  The root is above itself. -/
def leadsUp (part : Text) : Bool := part == Text.ofString ".."

/-- The parts from the root that a name spells, whether or not they exist. -/
def placeOf (workingDirectory : List Text) (name : Text) : List Text :=
  (partsOf name).foldl (fun here part =>
    if stays part then here else if leadsUp part then here.dropLast else here ++ [part])
    (baseOf workingDirectory name)

/-- Follow the parts of a name from a directory, each of which has to exist. -/
def walk (files : Files) (here : List Text) : List Text → Except Errno (List Text)
  | [] => .ok here
  | part :: rest =>
    if files.entry here ≠ some .directory then
      .error (if (files.entry here).isSome then .notDirectory else .noSuchFile)
    else if longestPart < part.encode.length then .error .nameTooLong
    else if stays part then walk files here rest
    else if leadsUp part then walk files here.dropLast rest
    else walk files (here ++ [part]) rest

def lookUp (files : Files) (name : Text) : Except Errno FileEntry := do
  if name.isEmpty then throw .noSuchFile
  if longestName < name.encode.length then throw .nameTooLong
  let parts ← files.walk (baseOf files.workingDirectory name) (partsOf name)
  match files.entry parts with
  | some e => return e
  | none => throw .noSuchFile

def read (files : Files) (name : Text) : Except Errno (List UInt8) := do
  match ← files.lookUp name with
  | .file content => return content
  | .directory => throw .isDirectory

end Files

end LineShell
