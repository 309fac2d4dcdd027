/-
  LineShell/Config/Basic.lean
  ===========================
  **The configuration of the shell.**

  A configuration gives the search path, the prompt, the history file and the
  length of the history.  It is read from the fields of a mapping: a field that is
  absent keeps its default, and a field that is not known is ignored.

  A field can be at fault in two ways.  An `Issue` is collected with those of the
  other fields; a `Refusal` ends the reading at once, whatever the other fields
  hold.  The fields are judged in the order path, prompt, history file, history
  length.
-/
import LineShell.Config.Count
import LineShell.Config.FilePath
import LineShell.Interactive

namespace LineShell

structure Config where
  path : List Text
  prompt : Text
  historyFile : Option FilePath
  historyLength : Int
deriving DecidableEq, Repr

def Config.default : Config := ⟨defaultPath, defaultPrompt, none, defaultHistoryLength⟩

inductive ConfigField where
  | path
  | prompt
  | historyFile
  | historyLength
deriving DecidableEq, Repr

def ConfigField.name : ConfigField → String
  | .path => "path"
  | .prompt => "prompt"
  | .historyFile => "history_file"
  | .historyLength => "history_length"

inductive IssueKind where
  | notText
  | undecodableText
  | count (f : CountFault)
  /-- A whole number has too many digits to be shown. -/
  | unshowable
  | nulInAccount
  /-- The name of an account cannot be written as bytes. -/
  | unspellableAccount (symbols : Text) (place : Nat)
deriving DecidableEq, Repr

namespace IssueKind

def code : IssueKind → String
  | .notText => "string_type"
  | .undecodableText => "string_unicode"
  | .count .wrongType => "int_type"
  | .count .undecodable => "string_unicode"
  | .count .malformed => "int_parsing"
  | .count .tooLarge => "int_parsing_size"
  | .count .fractional => "int_from_float"
  | .count .notFinite => "finite_number"
  | .count (.notPositive _) => "value_error"
  | .unshowable => "value_error"
  | .nulInAccount => "value_error"
  | .unspellableAccount _ _ => "value_error"

def message : IssueKind → Text
  | .notText => Text.ofString "Input should be a valid string"
  | .undecodableText | .count .undecodable =>
    Text.ofString
      "Input should be a valid string, unable to parse raw data as a unicode string"
  | .count .wrongType => Text.ofString "Input should be a valid integer"
  | .count .malformed =>
    Text.ofString "Input should be a valid integer, unable to parse string as an integer"
  | .count .tooLarge =>
    Text.ofString "Unable to parse input string as an integer, exceeded maximum size"
  | .count .fractional =>
    Text.ofString "Input should be a valid integer, got a number with a fractional part"
  | .count .notFinite => Text.ofString "Input should be a finite number"
  | .count (.notPositive n) =>
    Text.ofString "Value error, history_length must be positive, got " ++ Text.ofInt n
  | .unshowable =>
    Text.ofString
      "Value error, Exceeds the limit (4300 digits) for integer string conversion; use sys.set_int_max_str_digits() to increase the limit"
  | .nulInAccount => Text.ofString "Value error, embedded null byte"
  | .unspellableAccount symbols place =>
    Text.ofString "Value error, " ++ Text.unspellableMessage symbols place

end IssueKind

structure Issue where
  field : ConfigField
  kind : IssueKind
deriving DecidableEq, Repr

/-- What ends the reading of a configuration at once. -/
inductive Refusal where
  /-- The search path is a value without items. -/
  | noItems (typeName : String)
  /-- The history file is not a path. -/
  | notPath (typeName : String)
  /-- The history file is given as bytes. -/
  | bytesPath
  /-- The history file lies in a home directory that is not known. -/
  | unknownHome
deriving DecidableEq, Repr

/-- Why a mapping is no configuration. -/
inductive ConfigFault where
  | refused (r : Refusal)
  | invalid (issues : List Issue)
deriving DecidableEq, Repr

namespace Config

/-! ### The single fields -/

/-- The outcome of judging one field: a refusal, an issue, or a value. -/
abbrev Judged (α : Type) := Except Refusal (Except IssueKind α)

def itemTexts (items : List Value) : Except IssueKind (List Text) :=
  match items.mapM Value.toText? with
  | some texts => .ok texts
  | none => .error .unshowable

/-- The directories of a search path: none for null, one for a text, and
    otherwise the texts of the items. -/
def judgePath : Value → Judged (List Text)
  | .null => .ok (.ok [])
  | .text t => .ok (.ok [t])
  | .list items => .ok (itemTexts items)
  | .set items => .ok (itemTexts items)
  | .mapping fields => .ok (itemTexts (fields.map (·.1)))
  | .bytes content => .ok (itemTexts (content.map fun b => .int b.toNat))
  | .pair a b => .ok (itemTexts [a, b])
  | .date _ => .error (.noItems "datetime.date")
  | .moment _ => .error (.noItems "datetime.datetime")
  | v => .error (.noItems v.typeName)

/-- A prompt is a text, or bytes that decode as one. -/
def judgePrompt : Value → Judged Text
  | .text t => .ok (.ok t)
  | .bytes content =>
    .ok (match Text.decodeStrict? content with
      | some cs => .ok (cs.map .char)
      | none => .error .undecodableText)
  | _ => .ok (.error .notText)

/-- A history file is null, empty or a path. -/
def judgeHistoryFile (homes : Homes) : Value → Judged (Option FilePath)
  | .null => .ok (.ok none)
  | .text t =>
    if t.isEmpty then .ok (.ok none)
    else
      match (FilePath.parse t).expand homes with
      | .ok p => .ok (.ok (some p))
      | .error .unknown => .error .unknownHome
      | .error .nulCharacter => .ok (.error .nulInAccount)
      | .error (.unspellable symbols place) =>
        .ok (.error (.unspellableAccount symbols place))
  | .bytes _ => .error .bytesPath
  | v => .error (.notPath v.typeName)

/-- A history length is a positive count. -/
def judgeHistoryLength (v : Value) : Judged Int :=
  .ok (match Count.positive v with
    | .ok n => .ok n
    | .error (.notPositive n) =>
      .error (if (Value.intText? n).isSome then .count (.notPositive n) else .unshowable)
    | .error f => .error (.count f))

/-! ### The whole mapping -/

/-- Judge a field if it is given. -/
def judgeField {α : Type} (fields : List (Text × Value)) (field : ConfigField) (default : α)
    (judge : Value → Judged α) : Judged α :=
  match fields.lookup (Text.ofString field.name) with
  | none => .ok (.ok default)
  | some v => judge v

/-- The issue with a judged field, if there is one. -/
def issueOf {α : Type} (field : ConfigField) : Except IssueKind α → List Issue
  | .ok _ => []
  | .error kind => [⟨field, kind⟩]

/-- Put the judged fields together: all of them are values, or all issues are
    listed. -/
def assemble (path : Except IssueKind (List Text)) (prompt : Except IssueKind Text)
    (file : Except IssueKind (Option FilePath)) (length : Except IssueKind Int) :
    Except ConfigFault Config :=
  match path, prompt, file, length with
  | .ok path, .ok prompt, .ok file, .ok length => .ok ⟨path, prompt, file, length⟩
  | _, _, _, _ =>
    .error (.invalid (issueOf .path path ++ issueOf .prompt prompt ++
      issueOf .historyFile file ++ issueOf .historyLength length))

/-- The configuration that the fields of a mapping give. -/
def ofFields (homes : Homes) (fields : List (Text × Value)) : Except ConfigFault Config := do
  let judged {α : Type} (j : Judged α) : Except ConfigFault (Except IssueKind α) :=
    j.mapError .refused
  let path ← judged (judgeField fields .path default.path judgePath)
  let prompt ← judged (judgeField fields .prompt default.prompt judgePrompt)
  let file ← judged (judgeField fields .historyFile default.historyFile (judgeHistoryFile homes))
  let length ← judged (judgeField fields .historyLength default.historyLength judgeHistoryLength)
  assemble path prompt file length

/-- The fields that give a configuration back. -/
def toFields (c : Config) : List (Text × Value) :=
  [(Text.ofString "path", .list (c.path.map .text)),
   (Text.ofString "prompt", .text c.prompt),
   (Text.ofString "history_file",
     match c.historyFile with
     | none => .null
     | some p => .text p.text),
   (Text.ofString "history_length", .int c.historyLength)]

/-- The history that the configuration asks for, if any. -/
def history (c : Config) : Option History :=
  c.historyFile.map fun p => ⟨p.text, c.historyLength⟩

end Config

end LineShell
