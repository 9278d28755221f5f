import SampleData.Schema.Statement
import SampleData.Text.Digit

/-!
# Length bounds

A statement may assert `string::len($value) <= n` or `string::len($value) < n`.  The first
such assertion counts, wherever it stands and whatever the case of its letters.
-/

namespace SampleData

namespace Schema

/-- Small letters, with the long form of `s` counted as `s`. -/
def foldedLetter (c : Char) : Char :=
  if c.toNat = 0x17F then 's' else Text.lowerChar c

def afterFolded? : List Char → List Char → Option (List Char)
  | [], text => some text
  | _ :: _, [] => none
  | o :: opening, c :: text =>
      if o = foldedLetter c then afterFolded? opening text else none

/-- A length assertion: whether the bound itself is excluded, and its digits. -/
structure LengthAssertion where
  strict : Bool
  digits : List Char
  deriving DecidableEq, Repr, Inhabited

def comparison? : List Char → Option (Bool × List Char)
  | '<' :: '=' :: rest => some (false, rest)
  | '<' :: rest => some (true, rest)
  | _ => none

def assertionAt? (text : List Char) : Option LengthAssertion := do
  let rest ← afterFolded? "string::len(".toList text
  let rest ← afterFolded? "$value".toList (Text.trimStart rest)
  let rest ← afterFolded? ")".toList (Text.trimStart rest)
  let (strict, rest) ← comparison? (Text.trimStart rest)
  let digits := (Text.trimStart rest).takeWhile Text.isDecimalDigit
  if digits.isEmpty then none else some { strict, digits }

def assertion? : List Char → Option LengthAssertion
  | [] => none
  | c :: rest =>
      match assertionAt? (c :: rest) with
      | some assertion => some assertion
      | none => assertion? rest

/-- One more than the largest length that can be asserted. -/
def lengthLimit : Nat := UInt64.size

/-- The most characters that an assertion allows, if its digits write a length. -/
def LengthAssertion.bound? (assertion : LengthAssertion) : Option Nat :=
  (Text.numeral? lengthLimit assertion.digits).map fun length =>
    if assertion.strict then length - 1 else length

end Schema

end SampleData
