/-
  LineShell/Config/Load.lean
  ==========================
  **Loading a configuration.**

  A configuration file is a document whose value is a mapping from texts.  A
  document without content stands for the defaults, and so does every blank value.
  Without a file the defaults hold as well.
-/
import LineShell.Config.Basic
import LineShell.World.Files
import LineShell.Yaml.Document

namespace LineShell

/-- Why no configuration can be loaded. -/
inductive LoadFault where
  /-- A configuration is asked for, but no file is named. -/
  | noName
  | missing (name : Text)
  | system (e : SystemError)
  | document (f : Yaml.DocumentFault)
  | notMapping (typeName : String)
  /-- A key of the mapping is no text. -/
  | keyNotText
  | config (f : ConfigFault)
deriving DecidableEq, Repr

namespace LoadFault

def refusalMessage : Refusal → Text
  | .noItems typeName => Text.ofString ("'" ++ typeName ++ "' object is not iterable")
  | .notPath typeName =>
    Text.ofString ("expected str, bytes or os.PathLike object, not " ++ typeName)
  | .bytesPath =>
    Text.ofString
      "argument should be a str object or an os.PathLike object returning str, not <class 'bytes'>"
  | .unknownHome => Text.ofString "Could not determine home directory."

/-- The wording of a fault.  The three whose wording spans several lines are shown
    by their kind alone. -/
def message : LoadFault → Text
  | .noName => refusalMessage (.notPath "list")
  | .missing name => Text.ofString "Configuration file not found: " ++ name
  | .system e => e.message
  | .document .undecodable => Text.ofString "<UnicodeDecodeError>"
  | .document .malformed => Text.ofString "<YAMLError>"
  | .document f => f.message
  | .notMapping typeName =>
    Text.ofString ("Configuration must be a mapping, got " ++ typeName)
  | .keyNotText => Text.ofString "keywords must be strings"
  | .config (.refused r) => refusalMessage r
  | .config (.invalid _) => Text.ofString "<ValidationError>"

/-- Is the fault one that the command line reports?  The others end the program. -/
def isReported : LoadFault → Bool
  | .missing _ | .system _ | .notMapping _ => true
  | .noName => false
  | .document .emptyNumber | .document (.truthValue _) | .document .noDate => false
  | .document .heavyGroup | .document .mappingDate | .document .endlessDefault => false
  | .document .wideCodePoint | .document .tooDeep => false
  | .document _ => true
  | .keyNotText => false
  | .config (.refused _) => false
  | .config (.invalid _) => true

end LoadFault

namespace Config

/-- The fields of a mapping, whose keys have to be texts. -/
def textFields : List (Value × Value) → Option (List (Text × Value))
  | [] => some []
  | (.text t, v) :: rest => (textFields rest).map ((t, v) :: ·)
  | _ :: _ => none

/-- The configuration that the value of a document gives. -/
def ofValue (homes : Homes) (v : Value) : Except LoadFault Config :=
  if v.isBlank then (ofFields homes []).mapError .config
  else
    match v with
    | .mapping fields =>
      match textFields fields with
      | some fields => (ofFields homes fields).mapError .config
      | none => .error .keyNotText
    | v => .error (.notMapping v.typeName)

/-- The configuration that the bytes of a file give. -/
def ofBytes (homes : Homes) (content : List UInt8) : Except LoadFault Config :=
  match Yaml.document (.ofBytes content) with
  | .error f => .error (.document f)
  | .ok v => ofValue homes v

/-- Load a configuration file; its name is taken as a path first. -/
def load (homes : Homes) (files : Files) (name : Text) : Except LoadFault Config :=
  let path := (FilePath.parse name).text
  let system (e : Errno) : LoadFault := .system (.about e path)
  if name.hasNul then .error (.missing name)
  else
    match files.lookUp path with
    | .error .noSuchFile => .error (.missing name)
    | .error .notDirectory => .error (.missing name)
    | .error e => .error (system e)
    | .ok .directory => .error (system .isDirectory)
    | .ok (.file content) => ofBytes homes content

end Config

end LineShell
