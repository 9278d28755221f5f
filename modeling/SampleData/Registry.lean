import SampleData.Failure
import SampleData.Glob

/-!
# Registries

The models of a project after validation: every table belongs to one model, and every link
field says which table it links to.  A link may name a model by its label, which becomes the
model's table here.
-/

namespace SampleData

/-- The models of a project in order of discovery. -/
structure Registry where
  models : List Model
  deriving DecidableEq, Repr, Inhabited

namespace Registry

def firstRepeated? (seen : List String) : List String → Option String
  | [] => none
  | text :: rest =>
      if seen.contains text then some text else firstRepeated? (text :: seen) rest

/-- The table of the model with a label: of several with one label, the last. -/
def tableOfLabel? (models : List Model) (label : String) : Option String :=
  (models.reverse.find? fun model => model.label == label).map Model.table

def withoutApp (target : String) : String :=
  match Text.cutAt '.' target.toList with
  | some (_, name) => String.ofList name
  | none => target

/-- The table that a link names: by a model's label, or else by the name after the app. -/
def resolveTarget (models : List Model) (target : String) : String :=
  (tableOfLabel? models target).getD (withoutApp target)

def resolveField (models : List Model) (label : String) (field : Field) :
    Except Failure Field :=
  if field.kind.isLink then
    match field.target with
    | some target => .ok { field with target := some (resolveTarget models target) }
    | none => .error (.noTarget field.name label)
  else
    .ok field

def resolveModel (models : List Model) (model : Model) : Except Failure Model := do
  let fields ← model.fields.mapM (resolveField models model.label)
  let manyToMany ← model.manyToMany.mapM (resolveField models model.label)
  .ok { model with fields, manyToMany }

/-- Validate models: a repeated table is reported before a link without a target. -/
def ofModels (models : List Model) : Except Failure Registry :=
  match firstRepeated? [] (models.map Model.table) with
  | some table => .error (.repeatedTable table)
  | none => do
      let resolved ← models.mapM (resolveModel models)
      .ok ⟨resolved⟩

def isExcluded (patterns : List String) (label : String) : Bool :=
  patterns.any fun pattern => Glob.test pattern label

/-- The models of other apps than the one left out whose labels match no pattern. -/
def select (registry : Registry) (exclude : List String) (authApp : String) : List Model :=
  registry.models.filter fun model =>
    model.app != authApp && !isExcluded exclude model.label

end Registry

end SampleData
