import SampleData.Failure
import SampleData.Identifier

/-!
# Names that must be well formed

Reading a name either succeeds or fails with the name in the message.
-/

namespace SampleData

/-- A name in a given role must be an identifier, because it will stand unquoted in statements. -/
def Identifier.require (role name : String) : Except Failure Unit :=
  if Identifier.test name then .ok () else .error (.notIdentifier role name)

theorem Identifier.require_eq_ok_iff {role name : String} :
    Identifier.require role name = .ok () ↔ Identifier.test name = true := by
  unfold Identifier.require
  split <;> simp_all

def Record.read (raw : String) : Except Failure Record :=
  match Record.ofText? raw with
  | some record => .ok record
  | none => .error (.notRecord raw)

end SampleData
