import SampleData.Draws
import SampleData.Text.Ascii
import SampleData.Text.Digit
import SampleData.Text.Pieces
import SampleData.Text.Blank

/-!
# Made-up texts

Names, addresses, sentences and numerals put together from draws.  Each text comes first
from the texts waiting for its kind, and is otherwise built from a few short lists.
-/

namespace SampleData

namespace Fake

open Draws

/-! ## Building blocks -/

def wordList : List String :=
  ["alpha", "Beta", "gamma", "delta", "epsilon", "zeta", "eta", "theta"]

def hostList : List String :=
  ["example.com", "example.org", "example.net"]

def suffixList : List String :=
  ["com", "net", "org", "io"]

def firstNames : List String :=
  ["Ada", "Bo", "Zoë"]

def lastNames : List String :=
  ["Lee", "O'Hara", "van Dyk"]

def pick (texts : List String) : Sampler String := do
  let index ← below texts.length
  pure (texts.getD index "")

def listedWord : Sampler String :=
  pick wordList

def letter : Sampler Char := do
  let index ← below 26
  pure (Char.ofNat ('a'.toNat + index))

def letters (count : Nat) : Sampler (List Char) :=
  repeated count letter

/-- The capital letters, then the small letters, then the digits. -/
def alphanumericOf (index : Nat) : Char :=
  if index < 26 then
    Char.ofNat ('A'.toNat + index)
  else if index < 52 then
    Char.ofNat ('a'.toNat + (index - 26))
  else
    Char.ofNat ('0'.toNat + (index - 52))

def alphanumeric : Sampler Char := do
  let index ← below 62
  pure (alphanumericOf index)

def digit : Sampler Char := do
  let value ← below 10
  pure (Nat.digitChar value)

/-! ## Texts by kind -/

def rawEmail : Sampler String :=
  textOr .email do
    let user ← pick wordList
    let host ← pick hostList
    pure (user ++ "@" ++ host)

def domainSuffix : Sampler String :=
  textOr .suffix (pick suffixList)

def word : Sampler String :=
  textOr .word listedWord

def name : Sampler String :=
  textOr .name do
    let first ← pick firstNames
    let last ← pick lastNames
    pure (first ++ " " ++ last)

def phone : Sampler String :=
  textOr .phone do
    let digits ← repeated 10 digit
    pure (String.ofList digits)

/--
Between `low` and `high` words, `high` excluded, with a separator between each two, and a full
stop.
-/
def wordsBetween (low high : Nat) (separator : String) : Sampler String := do
  let count ← between low (high - 1)
  let words ← repeated count.toNat listedWord
  pure (separator.intercalate words ++ ".")

def sentence : Sampler String :=
  textOr .sentence (wordsBetween 3 10 " ")

def paragraph : Sampler String :=
  textOr .paragraph (wordsBetween 3 7 ".\n")

def url : Sampler String := do
  let host ← word
  let suffix ← domainSuffix
  pure ("https://www." ++ Text.lowerString host ++ "." ++ suffix ++ "/")

/-! ## Email addresses -/

/-- Punctuation that may stand inside the part before the at sign, but not at its ends. -/
def isJoint (c : Char) : Bool :=
  c == '.' || c == '_' || c == '-'

def isLocalChar (c : Char) : Bool :=
  Text.isLowerLetter c || Text.isUpperLetter c || Text.isPlainDigit c || isJoint c

/-- The part before the at sign made plain: small letters, digits and inner punctuation are kept. -/
def plainLocal (raw : List Char) : List Char :=
  Text.trimWhile isJoint ((Text.lower raw).filter isLocalChar)

/-- The parts of an address around its first at sign; a text without one has a default domain. -/
def addressParts (raw : List Char) : List Char × List Char :=
  (Text.cutAt '@' raw).getD ([], "example.com".toList)

/-- An email address.  Its local part is made plain, or drawn anew when nothing plain remains. -/
def email : Sampler String := do
  let raw ← rawEmail
  let (user, domain) := addressParts raw.toList
  let plain := plainLocal user
  let user ← if plain.isEmpty then letters 8 else pure plain
  pure (String.ofList (user ++ '@' :: domain))

def shortDomains : List String :=
  ["example.com", "x.io"]

/--
An address of at most `limit` characters at the first of the domains that leaves room for a
letter.
-/
def shortEmail (limit : Nat) : List String → Sampler (Option String)
  | [] => pure none
  | domain :: others =>
      let room := limit - (domain.length + 1)
      if 1 ≤ room then do
        let user ← letters (min room 10)
        pure (some (String.ofList user ++ "@" ++ domain))
      else
        shortEmail limit others

def emailWithin (limit : Nat) : Sampler (Option String) := do
  let address ← email
  if address.length ≤ limit then
    pure (some address)
  else
    shortEmail limit shortDomains

/-! ## Numerals and keys -/

/-- The most digits drawn for either side of a decimal point. -/
def digitCap : Nat := 38

def decimalText (whole fraction places : Nat) : String :=
  if places = 0 then
    toString whole
  else
    toString whole ++ "." ++ String.ofList (Text.digitsOfWidth places fraction)

/-- A number that is zero in both parts becomes one in its last place, if it has one. -/
def nonZero (left right whole fraction : Nat) : Nat × Nat :=
  if whole = 0 ∧ fraction = 0 then
    if 0 < right then (whole, 1) else if 0 < left then (1, fraction) else (whole, fraction)
  else
    (whole, fraction)

/-- A decimal with at most `left` digits before its point and exactly `right` after it. -/
def decimal (left right : Nat) : Sampler String := do
  let left := min left digitCap
  let right := min right digitCap
  let whole ← below (Nat.pow 10 left)
  let fraction ← below (Nat.pow 10 right)
  let (whole, fraction) := nonZero left right whole fraction
  pure (decimalText whole fraction right)

def keyRest : Nat := 19

/-- The key of a new record: a small letter, and then small letters and digits. -/
def recordKey : Sampler String := do
  let first ← letter
  let rest ← repeated keyRest alphanumeric
  pure (String.ofList (first :: Text.lower rest))

end Fake

end SampleData
