import SampleData.Account
import SampleData.FileTree
import SampleData.Toml.Shape

/-!
# Configuration

What a project's configuration file says: how many instances to make, what to leave out,
where models are described, and whom to make sure of.  Every key may be missing.
-/

namespace SampleData

structure Config where
  count : Nat := 100
  exclude : List String := []
  /-- The app whose models are always left out. -/
  authApp : String := "auth"
  manifest : String := "database/models.toml"
  /-- The directory of the schema files, from which models are derived when none is listed. -/
  schemaDir : String := "database/schema"
  bootstrap : Bootstrap := {}
  deriving DecidableEq, Repr, Inhabited

namespace Config

open Toml

def path : String := "database/dummy.toml"

def countBound : Nat := UInt64.size

def bootstrapShape : Shape Bootstrap where
  members :=
    [member "group_table" readString fun b text => { b with groupTable := text },
     member "groups" (readList readString) fun b names => { b with groups := names },
     member "user_table" readString fun b text => { b with userTable := text },
     member "admin_username" readString fun b text => { b with adminUsername := text },
     member "admin_email" readString fun b text => { b with adminEmail := text },
     member "admin_password" readString fun b text => { b with adminPassword := text },
     member "admin_password_env" readString fun b text =>
       { b with adminPasswordVariable := some text }]
  needed := 0

def shape : Shape Config where
  members :=
    [member "count" (readNatural countBound) fun c count => { c with count },
     member "exclude" (readList readString) fun c exclude => { c with exclude },
     member "auth_app" readString fun c authApp => { c with authApp },
     member "manifest" readString fun c manifest => { c with manifest },
     member "schema_dir" readString fun c schemaDir => { c with schemaDir },
     member "bootstrap" (bootstrapShape.read {}) fun c bootstrap => { c with bootstrap }]
  needed := 0

def parse (text : String) : Except Failure Config :=
  readDocument (shape.read {}) text

/-- Read the configuration file of a project; without one all defaults hold. -/
def load (tree : FileTree) : Except Failure Config :=
  if tree.contains path then do
    let text ← Failure.within (.reading (Text.quoted path))
      ((tree.readText path).mapError Failure.file)
    Failure.within (.parsing (Text.quoted path)) (parse text)
  else
    .ok {}

end Config

end SampleData
