import SampleData.Failure
import SampleData.Fake
import SampleData.Model
import SampleData.Value

/-!
# Values for fields

How a value is made up for a field that is no link.  A field that names a text source gets
text from it; any other field gets a value by its kind, and a short text by its name.
-/

namespace SampleData

namespace Synthesis

/-- The names of fields that record when something happened to an instance: now, that is. -/
def momentNames : List String :=
  ["created", "modified", "creation_date"]

def shortTextLimit : Nat := 100

def emailLimit : Nat := 254

def defaultDigits : Nat := 10

def defaultPlaces : Nat := 2

/-! ## Texts -/

/-- The first characters of a text, without the blanks they end with. -/
def cut (limit : Nat) (text : String) : String :=
  String.ofList (Text.trimEnd (text.toList.take limit))

def emailText (limit : Nat) : Sampler (Except Failure String) := do
  match ← Fake.emailWithin limit with
  | some address => pure (.ok address)
  | none => pure (.error (.emailTooShort limit))

def cutText (limit : Option Nat) (sampler : Sampler String) :
    Sampler (Except Failure String) := do
  let text ← sampler
  match limit with
  | some limit => pure (.ok (cut limit text))
  | none => pure (.ok text)

/-- A text from a source: an address keeps within its limit, any other text is cut. -/
def sourceText (source : TextSource) (addressLimit : Nat) (limit : Option Nat) :
    Sampler (Except Failure String) :=
  match source with
  | .email => emailText addressLimit
  | .phone => cutText limit Fake.phone
  | .name => cutText limit Fake.name
  | .sentence => cutText limit Fake.sentence
  | .paragraph => cutText limit Fake.paragraph
  | .url => cutText limit Fake.url
  | .languageCode => cutText limit (pure "en")

def suggestedSource (name : List Char) : TextSource :=
  if "email".toList.isSuffixOf name then .email
  else if "phone".toList.isSuffixOf name then .phone
  else if "name".toList.isSuffixOf name then .name
  else if name = "language_code".toList then .languageCode
  else .sentence

/-- A short text by its field's name, whatever the case of the name's letters. -/
def shortText (field : Field) : Sampler (Except Failure String) :=
  let limit := field.maxLength.getD shortTextLimit
  sourceText (suggestedSource (Text.lower field.name.toList)) limit (some limit)

/-- A text from the source that its field names, which must be a field for text. -/
def namedSourceText (field : Field) (source : TextSource) : Sampler (Except Failure String) :=
  if field.kind.isText then
    sourceText source (field.maxLength.getD emailLimit) field.maxLength
  else
    pure (.error (.sourceMisfit source field.kind field.name))

/-! ## Other values -/

/-- An instant from the start of the current decade to now. -/
def dateTimeThisDecade (now : Instant) : Sampler (Except Failure Instant) :=
  match Date.decadeStart? now.date.year with
  | none => pure (.error .yearOutOfRange)
  | some start => do
      let seconds ← Draws.between start.midnight.seconds now.seconds
      pure (.ok ⟨seconds, 0⟩)

def dateThisDecade (now : Instant) : Sampler (Except Failure Date) :=
  match Date.decadeStart? now.date.year with
  | none => pure (.error .yearOutOfRange)
  | some start => do
      let number ← Draws.between start.number now.date.number
      pure (.ok ⟨number⟩)

def recordsMoment (field : Field) : Bool :=
  momentNames.contains field.name

def dateTime (now : Instant) (field : Field) : Sampler (Except Failure Instant) :=
  if recordsMoment field then pure (.ok now) else dateTimeThisDecade now

def date (now : Instant) (field : Field) : Sampler (Except Failure Date) :=
  if recordsMoment field then pure (.ok now.date) else dateThisDecade now

def integer (field : Field) : Sampler Int :=
  if field.name = "index_number" then Draws.between 1 100 else Draws.between 0 1000

/-- A decimal for a field, whose digits must leave room for its places. -/
def decimal (field : Field) : Sampler (Except Failure String) :=
  let digits := field.maxDigits.getD defaultDigits
  let places := field.decimalPlaces.getD defaultPlaces
  if digits < places then
    pure (.error (.tooManyPlaces field.name places digits))
  else do
    let numeral ← Fake.decimal (digits - places) places
    pure (.ok numeral)

/-! ## Fields -/

def asValue {α : Type} (form : α → Value) (sampler : Sampler (Except Failure α)) :
    Sampler (Except Failure (Option Value)) := do
  let result ← sampler
  pure (result.map fun made => some (form made))

def always {α : Type} (form : α → Value) (sampler : Sampler α) :
    Sampler (Except Failure (Option Value)) := do
  let made ← sampler
  pure (.ok (some (form made)))

/-- The value of a field by its kind; links and unknown kinds have none. -/
def byKind (now : Instant) (field : Field) : Sampler (Except Failure (Option Value)) :=
  match field.kind with
  | .shortText => asValue .text (shortText field)
  | .longText => always .text Fake.paragraph
  | .dateTime => asValue .dateTime (dateTime now field)
  | .date => asValue .date (date now field)
  | .boolean => always .boolean Draws.coin
  | .integer => always .integer (integer field)
  | .decimal => asValue .decimal (decimal field)
  | .url => always .text Fake.url
  | .email => asValue .text (emailText (field.maxLength.getD emailLimit))
  | .foreignKey => pure (.ok none)
  | .manyToMany => pure (.ok none)
  | .other => pure (.ok none)

/-- The value of a field: from the source it names, or else by its kind. -/
def value (now : Instant) (field : Field) : Sampler (Except Failure (Option Value)) :=
  match field.source with
  | some source => asValue .text (namedSourceText field source)
  | none => byKind now field

end Synthesis

end SampleData
