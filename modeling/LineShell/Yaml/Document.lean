/-
  LineShell/Yaml/Document.lean
  ============================
  **Documents.**

  The tokens of a document give at most one root node, and the root node gives its
  value; a text without a document stands for null.
-/
import LineShell.Yaml.Unfold

namespace LineShell.Yaml

def document (source : Source) : Except DocumentFault Value := do
  match ← Graph.ofTokens? (tokens source) with
  | (_, none) => return .null
  | (nodes, some root) => nodes.value root

end LineShell.Yaml
