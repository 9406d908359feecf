import LoadPlan.Document.Config
import LoadPlan.Files.Tree
import LoadPlan.Toml.Source
/-!
# Loading configurations

A configuration is read from the text of a document, and refused if it cannot be used.
-/

namespace LoadPlan.Config

/-- The configuration that a text describes. -/
def read (text : String) : Except CompileError Config :=
  match Toml.decode Document.config? text with
  | none => .error .configMalformed
  | some c => c.validate.map fun _ => c

/-- The configuration that a file describes. -/
def load (tree : FileTree) (path : String) : Except CompileError Config :=
  match tree.readText? path with
  | none => .error (.configUnreadable path)
  | some text => read text

end LoadPlan.Config
