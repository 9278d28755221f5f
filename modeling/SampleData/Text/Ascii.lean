/-!
# Letters of the first Unicode block

Case is a matter of the letters `A` to `Z` alone: every other character is its own
lower case.
-/

namespace SampleData

namespace Text

def isUpperLetter (c : Char) : Bool :=
  'A' ≤ c && c ≤ 'Z'

def isLowerLetter (c : Char) : Bool :=
  'a' ≤ c && c ≤ 'z'

/-- A letter `A` to `Z` becomes its small form; all else stays. -/
def lowerChar (c : Char) : Char :=
  if isUpperLetter c then Char.ofNat (c.toNat + 32) else c

def lower (text : List Char) : List Char :=
  text.map lowerChar

/-- Whether two texts differ at most in the case of their letters. -/
def sameLetters (a b : List Char) : Bool :=
  lower a == lower b

def lowerString (text : String) : String :=
  String.ofList (lower text.toList)

theorem lower_append (a b : List Char) : lower (a ++ b) = lower a ++ lower b :=
  List.map_append

theorem length_lower (text : List Char) : (lower text).length = text.length :=
  List.length_map _

theorem toList_lowerString (text : String) :
    (lowerString text).toList = lower text.toList :=
  String.toList_ofList

end Text

end SampleData
