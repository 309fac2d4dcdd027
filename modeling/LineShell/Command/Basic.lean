/-
  LineShell/Command/Basic.lean
  ============================
  **Commands.**

  A command is a name, its argument list (whose first entry is the name as it
  was typed) and, where the output is redirected, the target file.  A command
  that the parser builds satisfies `Command.WellFormed`: the argument list starts
  with the name, and no part of it is empty or holds a blank or an operator.
-/
import LineShell.Text.Blank
import LineShell.Text.Quoted

namespace LineShell

def redirectOperator : Symbol := .char '>'

/-- The marker between commands that run side by side. -/
def parallelMarker : Symbol := .char '&'

/-- One invocation: the arguments start with the name. -/
structure Command where
  name : Text
  args : List Text
  target : Option Text
deriving DecidableEq, Repr

namespace Command

/-- A command without arguments is called with its own name alone. -/
def make (name : Text) (args : List Text) (target : Option Text) : Command :=
  { name, args := if args.isEmpty then [name] else args, target }

def operands (c : Command) : List Text := c.args.tail

/-- A word can be typed as one token: it is not empty and holds neither a blank
    nor an operator. -/
def IsWord (t : Text) : Prop :=
  t ≠ [] ∧ ∀ s ∈ t, s.isBlank = false ∧ s ≠ redirectOperator ∧ s ≠ parallelMarker

structure WellFormed (c : Command) : Prop where
  args_head : c.args.head? = some c.name
  args_word : ∀ a ∈ c.args, IsWord a
  target_word : ∀ t ∈ c.target, IsWord t

/-- The form of a command in logs: its name, its other arguments and its target,
    each quoted. -/
def display (c : Command) : Text :=
  let operands := Text.joinWith (Text.ofString ", ") (c.operands.map Text.quoted)
  let target := match c.target with
    | none => []
    | some t => Text.ofString " > " ++ t.quoted
  Text.ofString "Command(" ++ c.name.quoted ++ Text.ofString ", [" ++ operands ++
    Text.ofString "]" ++ target ++ Text.ofString ")"

end Command

end LineShell
