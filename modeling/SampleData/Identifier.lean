import SampleData.Text.Ascii
import SampleData.Text.Digit

/-!
# Identifiers

A name may stand in a statement unquoted when it is an identifier: a letter or an
underscore, and then letters, digits and underscores, all of them plain.
-/

namespace SampleData

namespace Identifier

def isStart (c : Char) : Bool :=
  Text.isUpperLetter c || Text.isLowerLetter c || c == '_'

/-- What may stand in an identifier after its start. -/
def isRest (c : Char) : Bool :=
  isStart c || Text.isPlainDigit c

def isIdentifier : List Char → Bool
  | [] => false
  | c :: rest => isStart c && rest.all isRest

def test (name : String) : Bool :=
  isIdentifier name.toList

theorem isRest_of_isStart {c : Char} (h : isStart c = true) : isRest c = true := by
  simp [isRest, h]

/-- Every character of an identifier is a letter, a digit or an underscore. -/
theorem isRest_of_mem {name : List Char} (h : isIdentifier name = true) {c : Char}
    (hc : c ∈ name) : isRest c = true := by
  cases name with
  | nil => simp at hc
  | cons first rest =>
      simp only [isIdentifier, Bool.and_eq_true, List.all_eq_true] at h
      rcases List.mem_cons.1 hc with rfl | hmem
      · exact isRest_of_isStart h.1
      · exact h.2 c hmem

end Identifier

end SampleData
