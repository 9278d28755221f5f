import SampleData.FileTree
import SampleData.Schema.Definition

/-!
# Discovery

The models that schema files describe.  A table takes its place in the order when any
definition first mentions it, and becomes a model when some definition makes it a table.
-/

namespace SampleData

namespace Schema

/-- A schema file's text and the app that its tables belong to. -/
structure Source where
  app : String
  text : String
  deriving DecidableEq, Repr, Inhabited

def Source.definitions (source : Source) : List Definition :=
  (statements (withoutComments source.text.toList)).filterMap
    (Definition.ofStatement? source.app)

def mentionedTables (definitions : List Definition) : List String :=
  (definitions.map Definition.about).eraseDups

/-- The app of a table as its last definition says, if it is defined. -/
def appOf? (definitions : List Definition) (table : String) : Option String :=
  definitions.reverse.findSome? fun
    | .table name app => if name = table then some app else none
    | _ => none

/-- Fields with one more at the end, which replaces an earlier one of its name. -/
def redefine (fields : List Field) (field : Field) : List Field :=
  fields.filter (fun earlier => earlier.name != field.name) ++ [field]

/-- The fields defined for a table: each name once, at the place of its last definition. -/
def fieldsOf (definitions : List Definition) (table : String) : List Field :=
  (definitions.filterMap fun
    | .field name field => if name = table then some field else none
    | _ => none).foldl redefine []

def uniqueColumnsOf (definitions : List Definition) (table : String) : List String :=
  definitions.filterMap fun
    | .uniqueColumn name column => if name = table then some column else none
    | _ => none

def modelOf? (definitions : List Definition) (table : String) : Option Model :=
  (appOf? definitions table).map fun app =>
    let unique := uniqueColumnsOf definitions table
    (Model.ofName app table).addFields
      ((fieldsOf definitions table).map fun field =>
        { field with unique := unique.contains field.name })

def modelsOf (definitions : List Definition) : List Model :=
  (mentionedTables definitions).filterMap (modelOf? definitions)

def models (sources : List Source) : List Model :=
  modelsOf (sources.flatMap Source.definitions)

/-! ## Schema files -/

/-- The app of tables defined right in the schema directory. -/
def rootApp : String :=
  "app"

/-- The app of a file: the directory below the schema directory that it is in. -/
def appOfPath (below : FilePath) : String :=
  match below with
  | app :: _ :: _ => app
  | _ => rootApp

def fileExtension : String :=
  "surql"

def sources (tree : FileTree) (directory : String) : Except Failure (List Source) :=
  ((tree.files directory).filter fun found =>
      FileTree.extension? found.name == some fileExtension).mapM fun found => do
    let path := FileTree.pathText directory found.below
    let text ← Failure.within (.reading (Text.quoted path))
      ((found.read directory).mapError Failure.file)
    .ok { app := appOfPath found.below, text }

end Schema

end SampleData
