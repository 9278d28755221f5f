import SampleData.Account
import SampleData.Draws
import SampleData.Failure
import SampleData.Value

/-!
# Stores

The five operations that a run needs of whatever keeps its records.  An operation changes
the state of the store and answers, possibly with a failure; a store that picks records by
itself need not draw.
-/

namespace SampleData

/-- A store with a given type of states. -/
structure Store (σ : Type) where
  /-- Make sure that a group of a name is in a table: whether it had to be created. -/
  ensureGroup : (table name : String) → StateM σ (Except Failure Bool)
  /-- Make sure that there is an administrator: whether the account had to be created. -/
  ensureAdmin : Account → StateM σ (Except Failure Bool)
  save : Record → Model → Values → StateM σ (Except Failure Unit)
  /-- Pick any record of a table, if there is one. -/
  pick : String → Draws → σ → Except Failure (Option Record) × Draws × σ
  relate : Record → (field : String) → List Record → StateM σ (Except Failure Unit)

end SampleData
