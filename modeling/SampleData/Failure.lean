import SampleData.Record
import SampleData.Model

/-!
# Failures

Why something could not be done.  A failure is a cause, possibly inside the tasks that
were under way; its message names the tasks from the outside in and then the cause.
-/

namespace SampleData

inductive FileFault where
  | notFound
  | exists
  | notDirectory
  | isDirectory
  | nameTooLong
  | invalidText
  deriving DecidableEq, Repr, Inhabited

def FileFault.message : FileFault → String
  | notFound => "No such file or directory (os error 2)"
  | .exists => "File exists (os error 17)"
  | notDirectory => "Not a directory (os error 20)"
  | isDirectory => "Is a directory (os error 21)"
  | nameTooLong => "File name too long (os error 36)"
  | invalidText => "stream did not contain valid UTF-8"

/-- What was being done when a failure happened. -/
inductive Task where
  /-- Reading a file, given by its quoted path. -/
  | reading (path : String)
  /-- Making sense of a file, given by its quoted path. -/
  | parsing (path : String)
  | writing (path : String)
  | creatingDirectory (path : String)
  | creatingGroup (name : String)
  | creatingAdmin (username : String)
  | connecting (address : String)
  | signingIn
  | selecting (space : String) (name : String)
  deriving DecidableEq, Repr, Inhabited

def Task.message : Task → String
  | reading path => s!"reading {path}"
  | parsing path => s!"parsing {path}"
  | writing path => s!"Writing {path}"
  | creatingDirectory path => s!"creating {path}"
  | creatingGroup name => s!"creating group {name}"
  | creatingAdmin username => s!"creating admin account {username}"
  | connecting address => s!"Failed connecting to {address}"
  | signingIn => "signin failed"
  | selecting space name => s!"use_ns/use_db failed for ns={space} db= {name}"

inductive Failure where
  /-- A name that must be an identifier is none; its role is a word such as table or field. -/
  | notIdentifier (role : String) (name : String)
  | notRecord (raw : String)
  | repeatedTable (table : String)
  | noTarget (field : String) (label : String)
  /-- The required links of these models form circles or lead into one. -/
  | circular (labels : List String)
  /-- A text source was asked for in a field that holds no text. -/
  | sourceMisfit (source : TextSource) (kind : FieldKind) (field : String)
  | emailTooShort (limit : Nat)
  | tooManyPlaces (field : String) (places digits : Nat)
  /-- A date lies outside the years that the calendar knows. -/
  | yearOutOfRange
  /-- A date lies outside the years that four digits can write. -/
  | yearUnwritable
  /-- A record was saved under a model with another table. -/
  | foreignTable (record : Record) (table : String)
  | recordExists (record : Record)
  | recordMissing (record : Record)
  | valueMissing (field : String) (table : String)
  /-- An instance links to a record that was never saved. -/
  | linkMissing (field : String) (target : Record)
  | valueRepeated (table : String) (field : String)
  | database (text : String)
  | file (fault : FileFault)
  /-- A document is not well formed, or not of the form that is read. -/
  | document (reason : String)
  | during (task : Task) (cause : Failure)
  deriving DecidableEq, Repr, Inhabited

namespace Failure

def documentOpening : String :=
  "TOML parse error"

/-- The wording of a failure: its tasks from the outside in, then its cause. -/
def message : Failure → String
  | notIdentifier role name => s!"{role} name '{name}' is not a plain identifier"
  | notRecord raw => s!"'{raw}' is not a record id"
  | repeatedTable table => s!"table '{table}' is registered by more than one model"
  | noTarget field label => s!"relationship field '{field}' on {label} has no target"
  | circular labels =>
      "circular required relationships between models: " ++ ", ".intercalate labels
  | sourceMisfit source kind field =>
      s!"generator {source.title} does not apply to {kind.label} field '{field}'"
  | emailTooShort limit => s!"max length {limit} is too short for an email address"
  | tooManyPlaces field places digits =>
      s!"decimal field '{field}' has {places} places but only {digits} digits"
  | yearOutOfRange => "year was not in range"
  | yearUnwritable => "The year component cannot be formatted into the requested format."
  | foreignTable record table => s!"record {record.text} does not belong to table {table}"
  | recordExists record => s!"record {record.text} already exists"
  | recordMissing record => s!"record {record.text} does not exist"
  | valueMissing field table => s!"field '{field}' on {table} requires a value"
  | linkMissing field target => s!"field '{field}' links missing record {target.text}"
  | valueRepeated table field =>
      s!"unique index on {table}.{field} already contains this value"
  | database text => text
  | file fault => fault.message
  | document reason => documentOpening ++ ": " ++ reason
  | during task cause => task.message ++ ": " ++ cause.message

def headline : Failure → String
  | during task _ => task.message
  | failure => failure.message

def isDocument : Failure → Bool
  | document _ => true
  | during _ cause => cause.isDocument
  | _ => false

/-- A result inside a task: a failure is one of that task. -/
def within {α : Type} (task : Task) (result : Except Failure α) : Except Failure α :=
  result.mapError (during task)

end Failure

end SampleData
