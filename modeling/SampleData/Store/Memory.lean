import SampleData.Store

/-!
# Stores in memory

A store that keeps its rows as values.  It admits an instance only if its record is new and
belongs to the model's table, every required field has a value, every link leads to a saved
record, and no unique value is there already.
-/

namespace SampleData

structure MemoryStore where
  rows : List (Record × Values) := []
  /-- The names of the groups in the order they were created. -/
  groups : List String := []
  admins : List String := []
  /-- The link sets by record and field, the latest first. -/
  links : List ((Record × String) × List Record) := []
  /-- How many rows were put in under numbered keys. -/
  numbered : Nat := 0
  deriving DecidableEq, Repr, Inhabited

namespace MemoryStore

/-! ## Looking -/

def has (store : MemoryStore) (record : Record) : Bool :=
  store.rows.any fun row => row.1 == record

def rowsOf (store : MemoryStore) (table : String) : List (Record × Values) :=
  store.rows.filter fun row => row.1.table == table

/-- The keys of a table in the order of their characters. -/
def keysOf (store : MemoryStore) (table : String) : List String :=
  ((store.rowsOf table).map fun row => row.1.key).mergeSort fun a b => !(decide (b < a))

def linksOf? (store : MemoryStore) (record : Record) (field : String) : Option (List Record) :=
  store.links.lookup (record, field)

/-! ## Groups and administrators -/

/-- Make sure of a group; the name alone tells groups apart. -/
def ensureGroup (_table name : String) : StateM MemoryStore (Except Failure Bool) := fun store =>
  if store.groups.contains name then (.ok false, store)
  else (.ok true, { store with groups := store.groups ++ [name] })

/-- Make sure of an administrator; any one will do. -/
def ensureAdmin (account : Account) : StateM MemoryStore (Except Failure Bool) := fun store =>
  if store.admins.isEmpty then (.ok true, { store with admins := [account.username] })
  else (.ok false, store)

/-! ## Instances -/

def missingLink? (store : MemoryStore) : Option Value → Option Record
  | some (.record target) => if store.has target then none else some target
  | _ => none

def holds (store : MemoryStore) (table field : String) (value : Value) : Bool :=
  (store.rowsOf table).any fun row => row.2.get? field == some value

/--
What stands against an instance's value for a field: first that it is missing, then its link,
then that it is repeated.
-/
def fieldFault? (store : MemoryStore) (table : String) (values : Values) (field : Field) :
    Option Failure :=
  let value := values.get? field.name
  if field.required && value.isNone then
    some (.valueMissing field.name table)
  else
    match store.missingLink? value with
    | some target => some (.linkMissing field.name target)
    | none =>
        match value with
        | some value =>
            if field.unique && store.holds table field.name value then
              some (.valueRepeated table field.name)
            else
              none
        | none => none

/-- What stands first against saving an instance: its table, its key, then its fields in order. -/
def saveFault? (store : MemoryStore) (record : Record) (model : Model) (values : Values) :
    Option Failure :=
  if record.table ≠ model.table then some (.foreignTable record model.table)
  else if store.has record then some (.recordExists record)
  else model.fields.findSome? (store.fieldFault? model.table values)

def save (record : Record) (model : Model) (values : Values) :
    StateM MemoryStore (Except Failure Unit) := fun store =>
  match store.saveFault? record model values with
  | some failure => (.error failure, store)
  | none => (.ok (), { store with rows := (record, values) :: store.rows })

/-- Put a row under the next numbered key of a table, in place of one that is there. -/
def insertNumbered (table : String) (values : Values) : StateM MemoryStore Record := fun store =>
  let number := store.numbered + 1
  let record : Record := ⟨table, "r" ++ toString number⟩
  let others := store.rows.filter fun row => row.1 != record
  (record, { store with rows := (record, values) :: others, numbered := number })

def pick (table : String) (draws : Draws) (store : MemoryStore) :
    Except Failure (Option Record) × Draws × MemoryStore :=
  let (key, draws) := Draws.choose (store.keysOf table) draws
  (.ok (key.map fun key => ⟨table, key⟩), draws, store)

def relate (record : Record) (field : String) (targets : List Record) :
    StateM MemoryStore (Except Failure Unit) := fun store =>
  if store.has record then
    let others := store.links.filter fun entry => entry.1 != (record, field)
    (.ok (), { store with links := ((record, field), targets) :: others })
  else
    (.error (.recordMissing record), store)

def store : Store MemoryStore where
  ensureGroup := ensureGroup
  ensureAdmin := ensureAdmin
  save := save
  pick := pick
  relate := relate

theorem has_iff {store : MemoryStore} {record : Record} :
    store.has record = true ↔ ∃ row ∈ store.rows, row.1 = record := by
  simp [has]

end MemoryStore

end SampleData
