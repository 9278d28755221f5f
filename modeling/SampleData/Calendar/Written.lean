import SampleData.Calendar
import SampleData.Failure
import SampleData.Text.Blank
import SampleData.Text.Digit

/-!
# Instants in writing

The internet's form of an instant: a year of four digits, month, day, the letter `T`, the
time of the day, a fraction of a second if there is one, and the letter `Z`.
-/

namespace SampleData

namespace Calendar

open Text (digitsOfWidth)

/-- The digits of a fraction of a second after its point, without zeros at its end. -/
def fractionDigits (nanos : Nat) : List Char :=
  Text.dropEndWhile (fun c => c == '0') (digitsOfWidth 9 nanos)

def fractionText (nanos : Nat) : List Char :=
  let digits := fractionDigits nanos
  if digits.isEmpty then [] else '.' :: digits

def twoDigits (a : Nat) (mark : Char) (b : Nat) : List Char :=
  digitsOfWidth 2 a ++ mark :: digitsOfWidth 2 b

end Calendar

namespace Instant

open Calendar
open Text (digitsOfWidth)

def writtenChars (instant : Instant) : List Char :=
  let date := instant.date
  let (month, day) := date.monthDay
  let second := instant.secondOfDay
  digitsOfWidth 4 date.year.toNat ++ '-' :: twoDigits month '-' day ++ 'T' ::
    twoDigits (second / 3600) ':' (second / 60 % 60) ++ ':' :: digitsOfWidth 2 (second % 60) ++
    fractionText instant.nanos ++ ['Z']

/-- The text of an instant; a year that does not have four digits cannot be written. -/
def written (instant : Instant) : Except Failure String :=
  if 0 ≤ instant.date.year ∧ instant.date.year ≤ lastYear then
    .ok (String.ofList instant.writtenChars)
  else
    .error .yearUnwritable

end Instant

end SampleData
