import SampleData.Proofs.Naming
import SampleData.Schema.Discovery

/-!
# Declared schemas

What a schema declares of its tables, the statements that say so, and the models that are
meant.  Nothing here reads a statement: the models are given by the declarations alone.
-/

namespace SampleData

namespace Schema

/-! ## Declarations -/

inductive Address where
  | email
  | url
  deriving DecidableEq, Repr, Inhabited

structure Limit where
  strict : Bool
  length : Nat
  deriving DecidableEq, Repr, Inhabited

inductive Condition where
  | address (address : Address)
  | limit (bound : Limit)
  deriving DecidableEq, Repr, Inhabited

inductive Conjunction where
  | word
  | sign
  deriving DecidableEq, Repr, Inhabited

/-- The types with nothing in brackets, other than texts. -/
inductive Scalar where
  | int
  | float
  | number
  | decimal
  | bool
  | datetime
  | object
  deriving DecidableEq, Repr, Inhabited

inductive Content where
  | text (conditions : List Condition) (conjunction : Conjunction)
  | scalar (type : Scalar)
  | link (target : String)
  /-- Links to many records, distinct or not, and how many there may be. -/
  | links (distinct : Bool) (target : String) (most : Option Nat)
  deriving DecidableEq, Repr, Inhabited

structure FieldDeclaration where
  name : String
  content : Content
  /-- How many options are around the type. -/
  options : Nat := 0
  /-- Whether the word `TABLE` stands before the table. -/
  namesTable : Bool := false
  default : Option String := none
  source : Option TextSource := none
  /-- The name of the index that makes the field unique, if there is one. -/
  index : Option String := none
  deriving DecidableEq, Repr, Inhabited

structure TableDeclaration where
  name : String
  fields : List FieldDeclaration
  deriving DecidableEq, Repr, Inhabited

structure AppDeclaration where
  app : String
  tables : List TableDeclaration
  deriving DecidableEq, Repr, Inhabited

/-! ## Models -/

namespace Scalar

def kind : Scalar → FieldKind
  | int => .integer
  | float | number | decimal => .decimal
  | bool => .boolean
  | datetime => .dateTime
  | object => .other

def word : Scalar → String
  | int => "int"
  | float => "float"
  | number => "number"
  | decimal => "decimal"
  | bool => "bool"
  | datetime => "datetime"
  | object => "object"

end Scalar

def Limit.most (limit : Limit) : Nat :=
  if limit.strict then limit.length - 1 else limit.length

def Condition.limit? : Condition → Option Limit
  | limit bound => some bound
  | address _ => none

namespace Content

def kind : Content → FieldKind
  | text conditions _ =>
      if .address .email ∈ conditions then .email
      else if .address .url ∈ conditions then .url
      else .shortText
  | scalar type => type.kind
  | link _ => .foreignKey
  | links .. => .manyToMany

def target? : Content → Option String
  | link target | links _ target _ => some target
  | _ => none

def limit? : Content → Option Limit
  | text conditions _ => conditions.findSome? Condition.limit?
  | _ => none

end Content

/-- The field that is meant: it must be filled unless it is optional or has a default. -/
def FieldDeclaration.field (declared : FieldDeclaration) : Field :=
  { name := declared.name,
    kind := declared.content.kind,
    required := declared.options == 0 && declared.default.isNone,
    unique := declared.index.isSome,
    maxLength := declared.content.limit?.map Limit.most,
    target := declared.content.target?,
    source := declared.source }

/-- The model that is meant, with the links to many records apart from the other fields. -/
def TableDeclaration.model (app : String) (declared : TableDeclaration) : Model :=
  { app, name := declared.name, table := declared.name,
    fields := (declared.fields.map FieldDeclaration.field).filter fun field => field.kind != .manyToMany,
    manyToMany := (declared.fields.map FieldDeclaration.field).filter fun field => field.kind == .manyToMany }

def AppDeclaration.models (declared : AppDeclaration) : List Model :=
  declared.tables.map (TableDeclaration.model declared.app)

/-! ## Statements -/

def digitsOf (n : Nat) : List Char :=
  Nat.toDigits 10 n

def Limit.comparison (limit : Limit) : Token :=
  if limit.strict then "<".toList else "<=".toList

def Condition.tokens : Condition → List Token
  | address .email => ["string::is::email($value)".toList]
  | address .url => ["string::is::url($value)".toList]
  | limit bound => ["string::len($value)".toList, bound.comparison, digitsOf bound.length]

def Conjunction.token : Conjunction → Token
  | word => "AND".toList
  | sign => "&&".toList

def collection (distinct : Bool) : List Char :=
  if distinct then "set".toList else "array".toList

def recordText (target : String) : List Char :=
  "record<".toList ++ target.toList ++ ['>']

namespace Content

def assertTokens : Content → List Token
  | text (first :: others) conjunction =>
      "ASSERT".toList :: (first.tokens ++ others.flatMap fun condition =>
        conjunction.token :: condition.tokens)
  | _ => []

/-- The type within its options: its text up to a blank, and behind the blank if there is one. -/
def typeParts : Content → List Char × Option (List Char)
  | text .. => ("string".toList, none)
  | scalar type => (type.word.toList, none)
  | link target => (recordText target, none)
  | links distinct target none => (collection distinct ++ '<' :: recordText target ++ ['>'], none)
  | links distinct target (some most) =>
      (collection distinct ++ '<' :: recordText target ++ [','], some (digitsOf most ++ ['>']))

end Content

def opened (options : Nat) : List Char :=
  (List.replicate options "option<".toList).flatten

def closed (options : Nat) : List Char :=
  List.replicate options '>'

def annotationOf (source : TextSource) : Token :=
  "\"dummy:".toList ++ source.label.toList ++ ['"']

namespace FieldDeclaration

def typeTokens (declared : FieldDeclaration) : List Token :=
  match declared.content.typeParts with
  | (whole, none) => [opened declared.options ++ whole ++ closed declared.options]
  | (front, some back) => [opened declared.options ++ front, back ++ closed declared.options]

def defaultTokens (declared : FieldDeclaration) : List Token :=
  match declared.default with
  | some number => ["DEFAULT".toList, number.toList]
  | none => []

def commentTokens (declared : FieldDeclaration) : List Token :=
  match declared.source with
  | some source => ["COMMENT".toList, annotationOf source]
  | none => []

def clauses (declared : FieldDeclaration) : List Token :=
  "TYPE".toList :: (declared.typeTokens ++ (declared.content.assertTokens ++
    (declared.defaultTokens ++ declared.commentTokens)))

def scopeTokens (declared : FieldDeclaration) (table : String) : List Token :=
  if declared.namesTable then ["ON".toList, "TABLE".toList, table.toList]
  else ["ON".toList, table.toList]

def statement (table : String) (declared : FieldDeclaration) : List Token :=
  "DEFINE".toList :: "FIELD".toList :: declared.name.toList ::
    (declared.scopeTokens table ++ declared.clauses)

def indexStatement (table : String) (declared : FieldDeclaration) (index : String) : List Token :=
  ["DEFINE".toList, "INDEX".toList, index.toList, "ON".toList, table.toList, "FIELDS".toList,
    declared.name.toList, "UNIQUE".toList]

end FieldDeclaration

namespace TableDeclaration

def statement (declared : TableDeclaration) : List Token :=
  ["DEFINE".toList, "TABLE".toList, declared.name.toList, "SCHEMAFULL".toList]

def statements (declared : TableDeclaration) : List (List Token) :=
  declared.statement :: (declared.fields.map (FieldDeclaration.statement declared.name) ++
    declared.fields.filterMap fun field => field.index.map (field.indexStatement declared.name))

end TableDeclaration

def AppDeclaration.statements (declared : AppDeclaration) : List (List Token) :=
  declared.tables.flatMap TableDeclaration.statements

/--
A text spells statements: their tokens with any gaps between them, each closed by a semicolon.
-/
def Spells (text : List Char) (statements : List (List Token)) : Prop :=
  ∃ (pieces : List (List Char)) (ending : List Char),
    text = pieces.flatMap (· ++ [';']) ++ ending ∧ pieces.map Text.words = statements ∧
      ∀ c ∈ ending, Text.isBlank c = true

def AppDeclaration.WrittenAs (declared : AppDeclaration) (source : Source) : Prop :=
  source.app = declared.app ∧ Spells source.text.toList declared.statements

/-! ## What may be declared -/

/-- The words that would be taken for something else in the place of a name. -/
def reservedWords : List String :=
  ["OVERWRITE", "IF", "NOT", "EXISTS", "TABLE", "UNIQUE"]

/-- A plain identifier that is no reserved word, whatever the case of its letters. -/
def IsName (name : String) : Prop :=
  Identifier.Plain name ∧ ∀ word ∈ reservedWords, isKeyword word name.toList = false

instance : DecidablePred IsName := fun _ => inferInstanceAs (Decidable (_ ∧ _))

def unsigned : List Char → List Char
  | '-' :: rest => rest
  | '+' :: rest => rest
  | text => text

def isNumberRest (c : Char) : Bool :=
  Identifier.isRest c || c == '.' || c == '-' || c == '+'

/--
A number as a default writes it: a digit, maybe behind a sign, and then what a fraction, an
exponent or a suffix needs.  Two hyphens are no part of a number.
-/
def isNumber (text : List Char) : Bool :=
  match unsigned text with
  | [] => false
  | c :: rest => Text.isPlainDigit c && rest.all isNumberRest && !Text.contains "--".toList text

def Condition.InRange : Condition → Prop
  | limit bound => bound.length < lengthLimit
  | address _ => True

instance : DecidablePred Condition.InRange
  | .limit _ => inferInstanceAs (Decidable (_ < _))
  | .address _ => inferInstanceAs (Decidable True)

/-- A table that is linked to: its name is in small letters, as types are read in small letters. -/
def IsTarget (target : String) : Prop :=
  IsName target ∧ Text.lowerString target = target

instance : DecidablePred IsTarget := fun _ => inferInstanceAs (Decidable (_ ∧ _))

def Content.WellFormed : Content → Prop
  | text conditions _ => ∀ condition ∈ conditions, condition.InRange
  | scalar _ => True
  | link target | links _ target _ => IsTarget target

instance : DecidablePred Content.WellFormed
  | .text _ _ => inferInstanceAs (Decidable (∀ _ ∈ _, _))
  | .scalar _ => inferInstanceAs (Decidable True)
  | .link _ => inferInstanceAs (Decidable (IsTarget _))
  | .links _ _ _ => inferInstanceAs (Decidable (IsTarget _))

structure FieldDeclaration.WellFormed (declared : FieldDeclaration) : Prop where
  name : IsName declared.name
  not_id : declared.name ≠ "id"
  content : declared.content.WellFormed
  default : ∀ number ∈ declared.default, isNumber number.toList = true
  index : ∀ index ∈ declared.index, IsName index

instance : DecidablePred FieldDeclaration.WellFormed := fun declared =>
  decidable_of_iff
    (IsName declared.name ∧ declared.name ≠ "id" ∧ declared.content.WellFormed ∧
      (∀ number ∈ declared.default, isNumber number.toList = true) ∧
        ∀ index ∈ declared.index, IsName index)
    ⟨fun ⟨hname, hid, hcontent, hdefault, hindex⟩ => ⟨hname, hid, hcontent, hdefault, hindex⟩,
      fun h => ⟨h.name, h.not_id, h.content, h.default, h.index⟩⟩

structure TableDeclaration.WellFormed (declared : TableDeclaration) : Prop where
  name : IsName declared.name
  visible : declared.name.toList.head? ≠ some '_'
  fields : ∀ field ∈ declared.fields, field.WellFormed
  distinct : (declared.fields.map FieldDeclaration.name).Nodup

instance : DecidablePred TableDeclaration.WellFormed := fun declared =>
  decidable_of_iff
    (IsName declared.name ∧ declared.name.toList.head? ≠ some '_' ∧
      (∀ field ∈ declared.fields, field.WellFormed) ∧ (declared.fields.map FieldDeclaration.name).Nodup)
    ⟨fun ⟨hname, hvisible, hfields, hdistinct⟩ => ⟨hname, hvisible, hfields, hdistinct⟩,
      fun h => ⟨h.name, h.visible, h.fields, h.distinct⟩⟩

/-- Well-formed tables, no two of one name in all apps together. -/
structure WellDeclared (declared : List AppDeclaration) : Prop where
  tables : ∀ app ∈ declared, ∀ table ∈ app.tables, table.WellFormed
  distinct : ((declared.flatMap AppDeclaration.tables).map TableDeclaration.name).Nodup

instance : DecidablePred WellDeclared := fun declared =>
  decidable_of_iff
    ((∀ app ∈ declared, ∀ table ∈ app.tables, table.WellFormed) ∧
      ((declared.flatMap AppDeclaration.tables).map TableDeclaration.name).Nodup)
    ⟨fun ⟨htables, hdistinct⟩ => ⟨htables, hdistinct⟩, fun h => ⟨h.tables, h.distinct⟩⟩

end Schema

end SampleData
