import SampleData.Config
import SampleData.Environment
import SampleData.Manifest
import SampleData.Registry
import SampleData.Schema.Discovery

/-!
# Projects

What the files of a project say: its models, listed in a manifest or else derived from
schema files, and its environment.
-/

namespace SampleData

namespace Project

def listedModels (tree : FileTree) (manifest : String) : Except Failure (List Model) :=
  if tree.contains manifest then Manifest.load tree manifest else .ok []

/-- The models of a project: those listed, or those of the schema files when none is listed. -/
def models (tree : FileTree) (manifest schemaDir : String) : Except Failure (List Model) := do
  let listed ← listedModels tree manifest
  if listed.isEmpty then do
    let sources ← Schema.sources tree schemaDir
    .ok (Schema.models sources)
  else
    .ok listed

def registry (tree : FileTree) (manifest schemaDir : String) : Except Failure Registry := do
  let models ← models tree manifest schemaDir
  Registry.ofModels models

/-- The file of variables that replaces the usual one. -/
def localEnvironmentPath : String :=
  ".env.local"

def environmentPath : String :=
  ".env"

/--
The variables of a project; a file that cannot be opened sets none, and neither does a line that
is no valid text.
-/
def environment (tree : FileTree) : Environment :=
  let path := if tree.contains localEnvironmentPath then localEnvironmentPath else environmentPath
  match tree.readLines path with
  | .ok lines => Environment.ofLines lines
  | .error _ => {}

end Project

end SampleData
