import SampleData.Draws
import SampleData.Record

/-!
# Ledgers

The records that a run has created so far, and what is picked among those of one table.
-/

namespace SampleData

/-- The records created so far, the latest first. -/
structure Ledger where
  records : List Record := []
  deriving DecidableEq, Repr, Inhabited

namespace Ledger

def maxLinks : Nat := 5

def add (ledger : Ledger) (record : Record) : Ledger :=
  ⟨record :: ledger.records⟩

/-- The records of a table in the order they were created. -/
def created (ledger : Ledger) (table : String) : List Record :=
  (ledger.records.filter fun record => record.table == table).reverse

def count (ledger : Ledger) (table : String) : Nat :=
  (ledger.created table).length

def choose (ledger : Ledger) (table : String) : Sampler (Option Record) :=
  Draws.choose (ledger.created table)

/-- Between one and `maxLinks` records of a table, or none when there are none. -/
def sample (ledger : Ledger) (table : String) : Sampler (List Record) :=
  let pool := ledger.created table
  if pool.isEmpty then
    pure []
  else do
    let amount ← Draws.between 1 (min maxLinks pool.length : Nat)
    Draws.chooseMany amount.toNat pool

theorem mem_created_iff {ledger : Ledger} {table : String} {record : Record} :
    record ∈ ledger.created table ↔ record ∈ ledger.records ∧ record.table = table := by
  simp [created]

theorem created_add (ledger : Ledger) (record : Record) (table : String) :
    (ledger.add record).created table =
      if record.table = table then ledger.created table ++ [record] else ledger.created table := by
  by_cases h : record.table = table <;> simp [created, add, h]

end Ledger

end SampleData
