import LoadPlan.Document.Model
import LoadPlan.Files.Tree
import LoadPlan.Json.Source
import LoadPlan.Yaml.Source
/-!
# Loading models

A model is read from the text of a document. The format of a file goes by its extension.
-/

namespace LoadPlan

/-- How a model is written down. -/
inductive ModelFormat where
  | json
  | yaml
deriving DecidableEq, Repr

namespace ModelFormat

/-- The format that goes with a file extension. -/
def ofExtension? : String → Option ModelFormat
  | "json" => some .json
  | "yaml" => some .yaml
  | "yml" => some .yaml
  | _ => none

/-- What is wrong with a text that is no document of this format. -/
def defect : ModelFormat → ModelError
  | .json => .badJson
  | .yaml => .badYaml

end ModelFormat

namespace LoadModel

/-- The model that a text describes. It need not be valid. -/
def read (format : ModelFormat) (text : String) : Except ModelError LoadModel :=
  let found := match format with
    | .json => Json.decode Document.loadModel? text
    | .yaml => Yaml.decode Document.loadModel? text
  match found with
  | some m => .ok m
  | none => .error format.defect

/-- The extension of a path in lower case, empty if there is none. -/
def extensionOf (path : String) : String :=
  ((Path.extension? path).getD "").map Char.toLower

/-- The model that a file describes. -/
def load (tree : FileTree) (path : String) : Except ModelError LoadModel :=
  match tree.readText? path with
  | none => .error .unreadable
  | some text =>
    match ModelFormat.ofExtension? (extensionOf path) with
    | some format => read format text
    | none => .error (.unsupportedFormat (extensionOf path))

end LoadModel

end LoadPlan
