/-
  LineShell/Config/FilePath.lean
  ==============================
  **File paths in a configuration.**

  A path is kept without empty parts and without parts that are a single dot.  It
  starts at the root when it starts with a slash; exactly two slashes are a root
  of their own.  The path without parts is written as a dot.

  Where the first part of a path that does not start at a root begins with a
  tilde, the part stands for a home directory: that of the user, or of the account
  it names.
-/
import LineShell.Text.Blank
import LineShell.Text.Quoted

namespace LineShell

/-- A path: its root and its parts. -/
structure FilePath where
  root : Text
  parts : List Text
deriving DecidableEq, Repr

structure Homes where
  user : Text
  account : Text → Option Text

namespace FilePath

def isPart (t : Text) : Bool := !t.isEmpty && t != Text.ofString "."

/-- The root that a text starts with. -/
def rootOf (t : Text) : Text :=
  match (t.takeWhile (Symbol.is '/')).length with
  | 0 => []
  | 2 => Text.ofString "//"
  | _ => Text.ofString "/"

def parse (t : Text) : FilePath :=
  ⟨rootOf t, (Text.cutWhere (Symbol.is '/') t).filter isPart⟩

def text (p : FilePath) : Text :=
  if p.root.isEmpty && p.parts.isEmpty then Text.ofString "."
  else p.root ++ Text.joinWith (Text.ofString "/") p.parts

/-- Why a home directory is not known. -/
inductive HomeFault where
  | unknown
  | nulCharacter
  /-- From a place on the account's name has symbols that no bytes spell. -/
  | unspellable (symbols : Text) (place : Nat)
deriving DecidableEq, Repr

/-- The home directory that a part beginning with a tilde stands for. -/
def homeOf (homes : Homes) (part : Text) : Except HomeFault Text :=
  let account : Text := part.drop 1
  if account.isEmpty then .ok homes.user
  else
    match account.unspellable with
    | some (place, symbols) => .error (.unspellable symbols place)
    | none =>
      if account.hasNul then .error .nulCharacter
      else
        match homes.account account with
        | some home => .ok home
        | none => .error .unknown

/-- Replace a first part that stands for a home directory. -/
def expand (homes : Homes) (p : FilePath) : Except HomeFault FilePath :=
  match p.parts with
  | first :: rest =>
    if p.root.isEmpty && first.head? = some (.char '~') then do
      let home := parse (← homeOf homes first)
      .ok ⟨home.root, home.parts ++ rest⟩
    else .ok p
  | [] => .ok p

end FilePath

end LineShell
