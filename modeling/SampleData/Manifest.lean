import SampleData.FileTree
import SampleData.Model
import SampleData.Toml.Shape

/-!
# Manifests

A file that lists models with their fields.
-/

namespace SampleData

namespace Manifest

open Toml

/-- What is known of a field while it is read. -/
structure FieldDraft where
  name : Option String := none
  kind : Option FieldKind := none
  /-- The rest of the field, under any name and kind. -/
  rest : Field := { name := "", kind := .other }
  deriving Inhabited

structure ModelDraft where
  app : Option String := none
  name : Option String := none
  table : Option String := none
  fields : List Field := []
  deriving Inhabited

def lengthBound : Nat := UInt64.size

/-- One more than the largest number of digits. -/
def digitBound : Nat := UInt32.size

def fieldShape : Shape FieldDraft where
  members :=
    [member "name" readString fun d name => { d with name := some name },
     member "kind" (readChoice FieldKind.ofLabel?) fun d kind => { d with kind := some kind },
     member "required" readBoolean fun d required => { d with rest := { d.rest with required } },
     member "unique" readBoolean fun d unique => { d with rest := { d.rest with unique } },
     member "max_length" (readNatural lengthBound) fun d n =>
       { d with rest := { d.rest with maxLength := some n } },
     member "max_digits" (readNatural digitBound) fun d n =>
       { d with rest := { d.rest with maxDigits := some n } },
     member "decimal_places" (readNatural digitBound) fun d n =>
       { d with rest := { d.rest with decimalPlaces := some n } },
     member "target" readString fun d text => { d with rest := { d.rest with target := some text } },
     member "generator" (readChoice TextSource.ofLabel?) fun d source =>
       { d with rest := { d.rest with source := some source } }]
  needed := 9

/-- Read a field: its name and its kind must be given. -/
def readField (value : Value) : Read Field := do
  let draft ← fieldShape.read {} value
  match draft.name, draft.kind with
  | some name, some kind => .ok { draft.rest with name, kind }
  | none, _ => .error "missing name"
  | _, none => .error "missing kind"

def modelShape : Shape ModelDraft where
  members :=
    [member "app" readString fun d app => { d with app := some app },
     member "name" readString fun d name => { d with name := some name },
     member "table" readString fun d table => { d with table := some table },
     member "fields" (readList readField) fun d fields => { d with fields }]
  needed := 3

/-- Read a model: its app and its name must be given, and its table is named after it by default. -/
def readModel (value : Value) : Read Model := do
  let draft ← modelShape.read {} value
  match draft.app, draft.name with
  | some app, some name =>
      let bare := Model.ofName app name
      .ok ({ bare with table := draft.table.getD name }.addFields draft.fields)
  | none, _ => .error "missing app"
  | _, none => .error "missing name"

def shape : Shape (List Model) where
  members := [member "models" (readList readModel) fun _ models => models]
  needed := 0

def parse (text : String) : Except Failure (List Model) :=
  readDocument (shape.read []) text

def load (tree : FileTree) (path : String) : Except Failure (List Model) := do
  let text ← Failure.within (.reading (Text.quoted path))
    ((tree.readText path).mapError Failure.file)
  Failure.within (.parsing (Text.quoted path)) (parse text)

end Manifest

end SampleData
