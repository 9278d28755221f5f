import SampleData.Text.Ascii
import SampleData.Text.Blank

/-!
# Models

A model describes one table: the app it belongs to, its name, and its fields.  Links to
many records are kept apart from the other fields, because they are set after every
record exists.
-/

namespace SampleData

inductive FieldKind where
  | shortText
  | longText
  | date
  | dateTime
  | boolean
  | integer
  | decimal
  | url
  | email
  | foreignKey
  | manyToMany
  | other
  deriving DecidableEq, Repr, Inhabited

namespace FieldKind

def all : List FieldKind :=
  [shortText, longText, date, dateTime, boolean, integer, decimal, url, email,
   foreignKey, manyToMany, other]

def label : FieldKind → String
  | shortText => "short_text"
  | longText => "long_text"
  | date => "date"
  | dateTime => "date_time"
  | boolean => "boolean"
  | integer => "integer"
  | decimal => "decimal"
  | url => "url"
  | email => "email"
  | foreignKey => "foreign_key"
  | manyToMany => "many_to_many"
  | other => "other"

def ofLabel? (name : String) : Option FieldKind :=
  all.find? fun kind => kind.label == name

theorem ofLabel?_label (kind : FieldKind) : ofLabel? kind.label = some kind := by
  cases kind <;> decide

def isLink (kind : FieldKind) : Bool :=
  kind == foreignKey || kind == manyToMany

def isText : FieldKind → Bool
  | shortText | longText | email | url => true
  | _ => false

end FieldKind

/-- A field may name the source of its text, which then counts more than the field's name. -/
inductive TextSource where
  | email
  | phone
  | name
  | sentence
  | paragraph
  | url
  | languageCode
  deriving DecidableEq, Repr, Inhabited

namespace TextSource

def all : List TextSource :=
  [email, phone, name, sentence, paragraph, url, languageCode]

def label : TextSource → String
  | email => "email"
  | phone => "phone"
  | name => "name"
  | sentence => "sentence"
  | paragraph => "paragraph"
  | url => "url"
  | languageCode => "language_code"

def title : TextSource → String
  | email => "Email"
  | phone => "Phone"
  | name => "Name"
  | sentence => "Sentence"
  | paragraph => "Paragraph"
  | url => "Url"
  | languageCode => "LanguageCode"

def ofLabel? (name : String) : Option TextSource :=
  all.find? fun source => source.label == name

theorem ofLabel?_label (source : TextSource) : ofLabel? source.label = some source := by
  cases source <;> decide

/-- The source an annotation names: blanks around the name and its case do not count. -/
def ofAnnotation? (raw : List Char) : Option TextSource :=
  ofLabel? (String.ofList (Text.lower (Text.trim raw)))

end TextSource

structure Field where
  name : String
  kind : FieldKind
  /-- Whether an instance must have a value for the field. -/
  required : Bool := true
  /-- Whether no two instances may have the same value. -/
  unique : Bool := false
  maxLength : Option Nat := none
  /-- The most digits a decimal may have on both sides of its point. -/
  maxDigits : Option Nat := none
  /-- The digits of a decimal after its point. -/
  decimalPlaces : Option Nat := none
  /-- The table of the records that a link field links to. -/
  target : Option String := none
  source : Option TextSource := none
  deriving DecidableEq, Repr, Inhabited

/-- One model: a table and how to fill it. -/
structure Model where
  app : String
  name : String
  table : String
  /-- The fields set when an instance is created, in order of declaration. -/
  fields : List Field := []
  manyToMany : List Field := []
  deriving DecidableEq, Repr, Inhabited

namespace Model

/-- A model without fields whose table has the model's name. -/
def ofName (app name : String) : Model :=
  { app, name, table := name }

/-- A model with one more field, which goes to the list for its kind. -/
def addField (model : Model) (field : Field) : Model :=
  if field.kind = .manyToMany then
    { model with manyToMany := model.manyToMany ++ [field] }
  else
    { model with fields := model.fields ++ [field] }

def addFields (model : Model) (fields : List Field) : Model :=
  fields.foldl addField model

def label (model : Model) : String :=
  model.app ++ "." ++ model.name

def allFields (model : Model) : List Field :=
  model.fields ++ model.manyToMany

/-- The tables that an instance must already find filled, other than its own. -/
def requiredTargets (model : Model) : List String :=
  (model.fields.filter fun field => field.kind == .foreignKey && field.required).filterMap
    Field.target |>.filter fun target => target != model.table

end Model

end SampleData
