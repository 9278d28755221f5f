import SampleData.Model
import SampleData.Schema.Statement

/-!
# Types of schema fields

The type of a field may be spread over several tokens; put together and in small letters it
decides what the field holds.
-/

namespace SampleData

namespace Schema

def depthAfter (depth : Nat) (token : Token) : Nat :=
  depth + token.count '<' - token.count '>'

/-- The tokens of a type put together, up to the first after which no bracket is open. -/
def typeTokens (depth : Nat) : List Token → List Char
  | [] => []
  | token :: rest =>
      let depth := depthAfter depth token
      if depth = 0 then token else token ++ typeTokens depth rest

def typeText? (tokens : List Token) : Option (List Char) :=
  let text := typeTokens 0 tokens
  if text.isEmpty then none
  else some (Text.lower (Text.dropEndWhile (fun c => c == ';') text))

/-- The text between the angle brackets of a type with a given outer name. -/
def inside? (outer : String) (text : List Char) : Option (List Char) :=
  (Text.afterOpening? (outer.toList ++ ['<']) text).bind (Text.beforeClosing? '>')

structure TypeReading where
  kind : FieldKind
  target : Option String := none
  /-- Whether the field may be without a value. -/
  optional : Bool := false
  deriving DecidableEq, Repr, Inhabited

/-- The table of a link: the first of several choices. -/
def linkTarget (text : List Char) : String :=
  String.ofList (Text.trim (text.takeWhile fun c => c != '|'))

def itemTarget? (items : List Char) : Option String :=
  (inside? "record" (items.takeWhile fun c => c != ',')).map linkTarget

def items? (text : List Char) : Option (List Char) :=
  (inside? "array" text).or (inside? "set" text)

def plainKind? (text : List Char) : Option FieldKind :=
  if text = "string".toList then some .shortText
  else if text = "int".toList then some .integer
  else if text = "float".toList then some .decimal
  else if text = "number".toList then some .decimal
  else if text = "decimal".toList then some .decimal
  else if text = "bool".toList then some .boolean
  else if text = "datetime".toList then some .dateTime
  else none

/-- What a type says that is not optional: a plain kind, a link, links, or something else. -/
def requiredReading (text : List Char) : TypeReading :=
  match plainKind? text with
  | some kind => { kind }
  | none =>
      match inside? "record" text with
      | some target => { kind := .foreignKey, target := some (linkTarget target) }
      | none =>
          match (items? text).bind itemTarget? with
          | some target => { kind := .manyToMany, target := some target }
          | none => { kind := .other }

/-- What a type says, with fuel for each option around it. -/
def readingFuel : Nat → List Char → TypeReading
  | 0, text => requiredReading text
  | fuel + 1, text =>
      match inside? "option" text with
      | some inner => { readingFuel fuel inner with optional := true }
      | none => requiredReading text

def reading (text : List Char) : TypeReading :=
  readingFuel text.length text

end Schema

end SampleData
