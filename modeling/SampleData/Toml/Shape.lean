import SampleData.Failure
import SampleData.Toml.Document

/-!
# Documents of a given form

Reading typed data from a document.  Nothing is converted: a whole number is no string and
a string no number.  A record with named members refuses unknown names, and may also be
given as an array of its members in order.
-/

namespace SampleData

namespace Toml

/-- The result of reading typed data, or why the document is not of the form. -/
abbrev Read (α : Type) := Except String α

def readString : Value → Read String
  | .string text => .ok text
  | _ => .error "expected a string"

def readBoolean : Value → Read Bool
  | .boolean flag => .ok flag
  | _ => .error "expected true or false"

/-- A whole number from zero up to but not including a bound. -/
def readNatural (bound : Nat) : Value → Read Nat
  | .integer number =>
      if 0 ≤ number && number < bound then .ok number.toNat
      else .error "number out of range"
  | _ => .error "expected a whole number"

def readList {α : Type} (item : Value → Read α) : Value → Read (List α)
  | .array _ items => items.mapM item
  | _ => .error "expected an array"

def isBare : Value → Bool
  | .array _ items => items.isEmpty
  | .table _ entries => entries.isEmpty
  | _ => false

/-- The name of a choice: a string, or the only key of a table, whose value then holds nothing. -/
def readName : Value → Read String
  | .string text => .ok text
  | .table _ [(key, value)] =>
      if isBare value then .ok key else .error "a choice holds no value"
  | _ => .error "expected the name of a choice"

def readChoice {α : Type} (ofLabel? : String → Option α) (value : Value) : Read α := do
  let name ← readName value
  match ofLabel? name with
  | some choice => .ok choice
  | none => .error s!"unknown choice {name}"

/-- A record as named members, each of which adds to what was read before. -/
structure Shape (σ : Type) where
  members : List (String × (Value → σ → Read σ))
  needed : Nat

def member {σ α : Type} (name : String) (read : Value → Read α) (store : σ → α → σ) :
    String × (Value → σ → Read σ) :=
  (name, fun value soFar => (read value).map (store soFar))

namespace Shape

def readEntry {σ : Type} (shape : Shape σ) (soFar : σ) (entry : String × Value) : Read σ :=
  match shape.members.lookup entry.1 with
  | some store => store entry.2 soFar
  | none => .error s!"unknown key {entry.1}"

/-- Read a record from a table or from an array, starting with its defaults. -/
def read {σ : Type} (shape : Shape σ) (defaults : σ) : Value → Read σ
  | .table _ entries => entries.foldlM shape.readEntry defaults
  | .array _ items =>
      if items.length < shape.needed then
        .error "too few members"
      else
        (shape.members.zip items).foldlM (fun soFar pair => pair.1.2 pair.2 soFar) defaults
  | _ => .error "expected a table"

end Shape

def readDocument {α : Type} (read : Value → Read α) (text : String) : Except Failure α :=
  match parse text with
  | none => .error (.document "not well formed")
  | some root =>
      match read root with
      | .ok result => .ok result
      | .error reason => .error (.document reason)

end Toml

end SampleData
