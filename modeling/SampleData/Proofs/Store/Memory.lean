import SampleData.Proofs.Draws
import SampleData.Store.Memory

/-!
# Saving and picking in memory

An instance is saved as it is or not at all.  What is picked of a table is one of its records,
and a table without records gives nothing and takes no draw.
-/

namespace SampleData

namespace Values

theorem mem_of_get?_eq_some {values : Values} {name : String} {value : Value}
    (h : values.get? name = some value) : (name, value) ∈ values := by
  induction values with
  | nil => cases h
  | cons entry rest ih =>
      obtain ⟨field, first⟩ := entry
      rw [get?_cons] at h
      cases hrest : get? rest name with
      | some later =>
          rw [hrest] at h
          cases h
          exact List.mem_cons_of_mem _ (ih hrest)
      | none =>
          rw [hrest] at h
          by_cases hname : field = name
          · rw [if_pos hname] at h
            cases h
            rw [hname]
            exact List.mem_cons_self
          · rw [if_neg hname] at h
            cases h

end Values

namespace MemoryStore

variable {store : MemoryStore} {record : Record} {model : Model} {values : Values}

/-- The records that are saved, the latest first. -/
def records (store : MemoryStore) : List Record :=
  store.rows.map Prod.fst

theorem has_iff_mem_records : store.has record = true ↔ record ∈ store.records := by
  rw [has_iff, records, List.mem_map]

def enrolled (names : List String) (name : String) : List String :=
  if names.contains name then names else names ++ [name]

theorem ensureGroup_eq (table name : String) (store : MemoryStore) :
    ensureGroup table name store =
      (.ok (!store.groups.contains name), { store with groups := enrolled store.groups name }) := by
  unfold ensureGroup enrolled
  by_cases h : name ∈ store.groups <;> simp [h]

/-- The first administrator who is asked for is the only one. -/
theorem ensureAdmin_eq (account : Account) (store : MemoryStore) :
    ensureAdmin account store =
      (.ok store.admins.isEmpty,
        { store with
          admins := if store.admins.isEmpty then [account.username] else store.admins }) := by
  unfold ensureAdmin
  cases h : store.admins.isEmpty <;> simp

theorem ensureGroup_rows (table name : String) (store : MemoryStore) :
    (ensureGroup table name store).2.rows = store.rows := by
  rw [ensureGroup_eq]

theorem ensureAdmin_rows (account : Account) (store : MemoryStore) :
    (ensureAdmin account store).2.rows = store.rows := by
  rw [ensureAdmin_eq]

theorem relate_rows (record : Record) (field : String) (targets : List Record)
    (store : MemoryStore) : (relate record field targets store).2.rows = store.rows := by
  unfold relate
  split <;> rfl

/-- An instance is saved when nothing stands against it, and else the store stays as it is. -/
theorem save_cases (store : MemoryStore) (record : Record) (model : Model) (values : Values) :
    (store.saveFault? record model values = none ∧
      save record model values store =
        (.ok (), { store with rows := (record, values) :: store.rows })) ∨
    ∃ failure, store.saveFault? record model values = some failure ∧
      save record model values store = (.error failure, store) := by
  unfold save
  cases hfault : store.saveFault? record model values with
  | none => exact .inl ⟨rfl, rfl⟩
  | some failure => exact .inr ⟨failure, rfl, rfl⟩

theorem not_mem_records_of_saveFault?_eq_none
    (h : store.saveFault? record model values = none) : record ∉ store.records := by
  intro hmem
  unfold saveFault? at h
  rw [if_pos (has_iff_mem_records.2 hmem)] at h
  split at h
  · cases h
  · cases h

theorem missingLink?_eq_some {value : Option Value} {target : Record}
    (h : store.missingLink? value = some target) :
    value = some (.record target) ∧ target ∉ store.records := by
  unfold missingLink? at h
  split at h
  · next found =>
    split at h
    · cases h
    · next hmissing =>
      cases h
      exact ⟨rfl, fun hmem => hmissing (has_iff_mem_records.2 hmem)⟩
  · cases h

theorem fieldFault?_eq_linkMissing {table name : String} {field : Field} {target : Record}
    (h : store.fieldFault? table values field = some (.linkMissing name target)) :
    values.get? field.name = some (.record target) ∧ target ∉ store.records := by
  unfold fieldFault? at h
  dsimp only at h
  split at h
  · cases h
  · cases hmissing : store.missingLink? (values.get? field.name) with
    | none =>
        simp only [hmissing] at h
        split at h
        · split at h
          · cases h
          · cases h
        · cases h
    | some missing =>
        simp only [hmissing] at h
        cases h
        exact missingLink?_eq_some hmissing

/--
An instance is turned down for a missing link only if one of its values leads to no saved
record.
-/
theorem saveFault?_eq_linkMissing {name : String} {target : Record}
    (h : store.saveFault? record model values = some (.linkMissing name target)) :
    ∃ field ∈ model.fields, values.get? field.name = some (.record target) ∧
      target ∉ store.records := by
  unfold saveFault? at h
  split at h
  · cases h
  · split at h
    · cases h
    · obtain ⟨field, hfield, hfault⟩ := List.exists_of_findSome?_eq_some h
      exact ⟨field, hfield, fieldFault?_eq_linkMissing hfault⟩

/-- Links of a saved record are always set, in place of those that its field had. -/
theorem relate_eq_of_mem (h : record ∈ store.records) (field : String) (targets : List Record) :
    relate record field targets store =
      (.ok (), { store with
        links := ((record, field), targets) ::
          store.links.filter fun entry => entry.1 != (record, field) }) := by
  unfold relate
  rw [if_pos (has_iff_mem_records.2 h)]

theorem relate_of_mem (h : record ∈ store.records) (field : String) (targets : List Record) :
    ∃ links, relate record field targets store = (.ok (), { store with links }) :=
  ⟨_, relate_eq_of_mem h field targets⟩

theorem keysOf_perm (store : MemoryStore) (table : String) :
    (store.keysOf table).Perm
      ((store.records.filter fun record => record.table == table).map Record.key) := by
  have hkeys : (store.rowsOf table).map (fun row => row.1.key) =
      (store.records.filter fun record => record.table == table).map Record.key := by
    simp only [rowsOf, records, List.filter_map, List.map_map]
    rfl
  unfold keysOf
  rw [hkeys]
  exact List.mergeSort_perm _ _

theorem mem_records_of_pick {table : String} {draws : Draws} {target : Record}
    (h : (pick table draws store).1 = .ok (some target)) : target ∈ store.records := by
  change Except.ok ((Draws.choose (store.keysOf table) draws).1.map fun key => (⟨table, key⟩ : Record)) = _ at h
  obtain ⟨key, hkey, rfl⟩ := Option.map_eq_some_iff.1 (Except.ok.inj h)
  have hmem := (keysOf_perm store table).mem_iff.1 (Draws.mem_of_choose hkey)
  obtain ⟨record, hrecord, rfl⟩ := List.mem_map.1 hmem
  obtain ⟨hsaved, htable⟩ := List.mem_filter.1 hrecord
  obtain rfl : record.table = table := beq_iff_eq.1 htable
  exact hsaved

/-- Nothing is picked of a table without records, and no number is drawn for it. -/
theorem pick_of_keysOf_eq_nil {table : String} (h : store.keysOf table = []) (draws : Draws) :
    pick table draws store = (.ok none, draws, store) := by
  unfold pick
  rw [h]
  rfl

end MemoryStore

end SampleData
