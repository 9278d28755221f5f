import SampleData.Schema.LengthBound
import SampleData.Schema.TypeText

/-!
# Definitions

What a statement defines, if it defines anything that matters: a table to be filled, a field
of a table, or that a column of a table holds no value twice.
-/

namespace SampleData

namespace Schema

inductive Definition where
  /-- A table whose instances are made by creating records. -/
  | table (table : String) (app : String)
  /-- A field that is given a value when a record is created. -/
  | field (table : String) (field : Field)
  | uniqueColumn (table : String) (column : String)
  deriving DecidableEq, Repr, Inhabited

def Definition.about : Definition → String
  | table name _ => name
  | field name _ => name
  | uniqueColumn name _ => name

/-- The words that may stand between what is defined and its name. -/
def isModifier (token : Token) : Bool :=
  isKeyword "OVERWRITE" token || isKeyword "IF" token || isKeyword "NOT" token ||
    isKeyword "EXISTS" token

def scope? (tokens : List Token) : Option (String × List Token) :=
  match after? "ON" tokens with
  | none => none
  | some rest =>
      let rest := match rest with
        | token :: more => if isKeyword "TABLE" token then more else rest
        | [] => rest
      match rest with
      | [] => none
      | table :: clauses => some (nameOf table, clauses)

/-! ## Tables -/

/-- Whether clauses make a table one of relations, which are not created but related. -/
def isRelationTable (clauses : List Token) : Bool :=
  match after? "TYPE" clauses with
  | some (kind :: _) => isKeyword "RELATION" kind
  | _ => false

/--
The table that tokens after the modifiers define: none of relations, none with an underscore in
front.
-/
def tableOf? : List Token → Option String
  | [] => none
  | token :: clauses =>
      let name := nameOf token
      if name.startsWith "_" || isRelationTable clauses then none else some name

/-! ## Fields -/

/-- Whether a name stands for the key of a record or for a part of another field. -/
def isInnerName (name : String) : Bool :=
  name == "id" || name.toList.any fun c => c == '.' || c == '[' || c == '*'

def anyType : List Char :=
  "any".toList

def typeOfClauses (clauses : List Token) : List Char :=
  ((after? "TYPE" clauses).bind typeText?).getD anyType

/-- A short text that is asserted to be an address is of the address's kind. -/
def assertedKind (statement : List Char) (kind : FieldKind) : FieldKind :=
  if kind = .shortText then
    let small := Text.lower statement
    if Text.contains "is::email".toList small then .email
    else if Text.contains "is::url".toList small then .url
    else kind
  else
    kind

def isCommentPunctuation (c : Char) : Bool :=
  c == '"' || c == '\'' || c == ';'

/-- The text source that a comment names: its first word is `dummy:` and the source's name. -/
def commentSource? (clauses : List Token) : Option TextSource :=
  match after? "COMMENT" clauses with
  | some (word :: _) =>
      (Text.afterOpening? "dummy:".toList (Text.trimWhile isCommentPunctuation word)).bind
        TextSource.ofAnnotation?
  | _ => none

def fieldOfClauses (statement : List Char) (name : String) (clauses : List Token)
    (maxLength : Option Nat) : Field :=
  let type := typeOfClauses clauses
  let read := reading type
  { name,
    kind := assertedKind statement read.kind,
    required := !read.optional && !mentions "DEFAULT" clauses && type != anyType,
    maxLength,
    target := read.target,
    source := commentSource? clauses }

/--
The field that tokens after the modifiers define.  Parts of other fields and computed fields
are none, nor is a field whose length assertion cannot be understood.
-/
def fieldOf? (statement : List Char) : List Token → Option (String × Field)
  | [] => none
  | token :: rest =>
      match scope? rest with
      | none => none
      | some (table, clauses) =>
          let name := nameOf token
          if isInnerName name || mentions "VALUE" clauses then
            none
          else
            match assertion? statement with
            | none => some (table, fieldOfClauses statement name clauses none)
            | some assertion =>
                match assertion.bound? with
                | none => none
                | some bound => some (table, fieldOfClauses statement name clauses (some bound))

/-! ## Unique columns -/

def columnsOf (tokens : List Token) : List String :=
  (((Text.joined [' '] tokens).splitOn ',').map fun column => nameOf (Text.trim column)).filter
    fun column => !column.isEmpty

def uniqueColumns? (clauses : List Token) : Option (List Token) := do
  let unique ← clauses.findIdx? (isKeyword "UNIQUE")
  let columns ← (clauses.findIdx? (isKeyword "FIELDS")).or
    (clauses.findIdx? (isKeyword "COLUMNS"))
  if unique ≤ columns then none
  else some ((clauses.take unique).drop (columns + 1))

def uniqueColumnOf? (tokens : List Token) : Option (String × String) := do
  let (table, clauses) ← scope? tokens.tail
  let listed ← uniqueColumns? clauses
  match columnsOf listed with
  | [column] => some (table, column)
  | _ => none

/-! ## Statements -/

def Definition.ofStatement? (app : String) (statement : List Char) : Option Definition :=
  match Text.words statement with
  | define :: sort :: token :: rest =>
      if isKeyword "DEFINE" define then
        let tokens := (token :: rest).dropWhile isModifier
        if isKeyword "TABLE" sort then
          (tableOf? tokens).map fun name => .table name app
        else if isKeyword "FIELD" sort then
          (fieldOf? statement tokens).map fun (name, made) => .field name made
        else if isKeyword "INDEX" sort then
          (uniqueColumnOf? tokens).map fun (name, column) => .uniqueColumn name column
        else
          none
      else
        none
  | _ => none

end Schema

end SampleData
