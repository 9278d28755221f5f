import SampleData.Order
import SampleData.Project

/-!
# Listings

The models that a run would fill, in the order it would fill them, as lines of text: each
with its table, and below it its fields with what limits their values.
-/

namespace SampleData

namespace Listing

def fieldWords (field : Field) : List String :=
  [field.kind.label]
  ++ (field.target.map fun target => "-> " ++ target).toList
  ++ (if field.required then [] else ["optional"])
  ++ (if field.unique then ["unique"] else [])
  ++ (field.maxLength.map fun length => "max " ++ toString length).toList
  ++ (match field.maxDigits, field.decimalPlaces with
      | some digits, some places => [toString digits ++ "," ++ toString places]
      | _, _ => [])

def fieldLine (field : Field) : String :=
  "  " ++ field.name ++ ": " ++ " ".intercalate (fieldWords field)

def headerLine (model : Model) : String :=
  model.label ++ " (" ++ model.table ++ ")"

def modelLines (model : Model) : List String :=
  headerLine model :: model.allFields.map fieldLine

/-- The line for a project without models to fill. -/
def nothingLine : String :=
  "No models found"

def countLine (discovered selected : Nat) : String :=
  toString discovered ++ " models discovered, " ++ toString selected ++
    " selected. Generation order:"

def lines (registry : Registry) (selected : List Model) : Except Failure (List String) :=
  if selected.isEmpty then
    .ok [nothingLine]
  else do
    let ordered ← Order.dependencyOrder selected
    .ok (countLine registry.models.length ordered.length :: ordered.flatMap modelLines)

/-- The listing of a project with more patterns to leave models out by. -/
def ofProject (tree : FileTree) (exclude : List String) : Except Failure (List String) := do
  let config ← Config.load tree
  let registry ← Project.registry tree config.manifest config.schemaDir
  lines registry (registry.select (config.exclude ++ exclude) config.authApp)

end Listing

end SampleData
