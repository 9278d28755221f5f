import SampleData.Config

/-!
# Scaffolds

The files that a fresh project starts with.  A file that is there already stays as it is.
-/

namespace SampleData

namespace Scaffold

def configText : String :=
"# Dummy data generation settings. Every key is optional.

# Instances created per model.
count = 100

# Models to leave alone, as app.model globs.
exclude = []

# App whose models are never generated for.
auth_app = \"auth\"

manifest = \"database/models.toml\"
schema_dir = \"database/schema\"

[bootstrap]
group_table = \"group\"
groups = [\"managers\", \"operators\", \"superoperators\"]
user_table = \"user\"
admin_username = \"admin\"
admin_email = \"admin@example.com\"
admin_password = \"admin\"
# admin_password_env = \"DUMMY_ADMIN_PASSWORD\"
"

/-- The manifest of a fresh project, which lists no model. -/
def manifestText : String :=
"# Model registry. While no model is listed here, models are read from the
# DEFINE statements under database/schema instead.
#
# [[models]]
# app = \"blog\"
# name = \"author\"
#
# [[models.fields]]
# name = \"name\"
# kind = \"short_text\"
# max_length = 80
#
# [[models.fields]]
# name = \"email\"
# kind = \"email\"
# unique = true
#
# [[models]]
# app = \"blog\"
# name = \"post\"
#
# [[models.fields]]
# name = \"author\"
# kind = \"foreign_key\"
# target = \"blog.author\"
#
# [[models.fields]]
# name = \"tags\"
# kind = \"many_to_many\"
# target = \"blog.tag\"
# required = false
"

def manifestPath : String :=
  "database/models.toml"

def schemaPath : String :=
  "database/schema"

def templates : List (String × String) :=
  [(Config.path, configText), (manifestPath, manifestText)]

/--
Write files that are absent, in order: the tree after the first failure or the last file, and
the paths written or the failure.
-/
def writeAbsent : List (String × String) → FileTree → Except Failure (List String) × FileTree
  | [], tree => (.ok [], tree)
  | (path, text) :: rest, tree =>
      if tree.contains path then
        writeAbsent rest tree
      else
        match tree.writeText path text with
        | .error fault => (.error (.during (.writing path) (.file fault)), tree)
        | .ok written =>
            let (paths, after) := writeAbsent rest written
            (paths.map (path :: ·), after)

def line (paths : List String) : String :=
  if paths.isEmpty then "Nothing to scaffold, configuration already present"
  else "Scaffolded " ++ ", ".intercalate paths

/-- Set a project up: make its directories and write the files that are absent. -/
def run (tree : FileTree) : Except Failure (List String) × FileTree :=
  match tree.makeDirectories [] (FileTree.parts schemaPath) with
  | (.error fault, made) =>
      (.error (.during (.creatingDirectory schemaPath) (.file fault)), made)
  | (.ok _, made) =>
      let (paths, after) := writeAbsent templates made
      (paths.map fun paths => [line paths], after)

end Scaffold

end SampleData
