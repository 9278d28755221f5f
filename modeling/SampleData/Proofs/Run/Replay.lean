import SampleData.Proofs.Run.Journal
import SampleData.Proofs.Store.Memory

/-!
# Replaying a journal in memory

A store in memory at any point of a run is what the calls up to that point make of an empty
store, and the answers in the journal are those that the calls get there.  Its rows are then
the instances that the journal says were saved.
-/

namespace SampleData

def Event.row? : Event → Option (Record × Values)
  | .saved record _ values (.ok _) => some (record, values)
  | _ => none

theorem Event.created?_eq_map_row? (event : Event) : event.created? = event.row?.map Prod.fst := by
  cases event with
  | saved record model values answer => cases answer <;> rfl
  | _ => rfl

theorem Event.eq_saved_of_row? {event : Event} {record : Record} {values : Values}
    (h : event.row? = some (record, values)) : ∃ model, event = .saved record model values (.ok ()) := by
  cases event with
  | saved found model held answer =>
      cases answer with
      | error failure => cases h
      | ok _ =>
          cases h
          exact ⟨model, rfl⟩
  | _ => cases h

namespace MemoryStore

/-! ## Replaying -/

def applied (store : MemoryStore) : Event → MemoryStore
  | .line _ => store
  | .log _ => store
  | .groupEnsured table name _ => (ensureGroup table name store).2
  | .adminEnsured account _ => (ensureAdmin account store).2
  | .saved record model values _ => (save record model values store).2
  | .picked _ _ => store
  | .related record field targets _ => (relate record field targets store).2

def after : List Event → MemoryStore
  | [] => {}
  | event :: past => (after past).applied event

/-- An event tells the answer that a store gives. -/
def Answers (store : MemoryStore) : Event → Prop
  | .line _ => True
  | .log _ => True
  | .groupEnsured table name answer => (ensureGroup table name store).1 = answer
  | .adminEnsured account answer => (ensureAdmin account store).1 = answer
  | .saved record model values answer => (save record model values store).1 = answer
  | .picked table answer => ∃ draws, (pick table draws store).1 = answer
  | .related record field targets answer => (relate record field targets store).1 = answer

/-- The answers of a journal are those that its own calls lead to. -/
abbrev Answered : List Event → Prop :=
  Throughout fun past event => (after past).Answers event

theorem replayed :
    KeptByCalls store fun state journal => state = after journal ∧ Answered journal where
  note := by
    rintro state journal event hnote ⟨rfl, h⟩
    cases event with
    | line text => exact ⟨rfl, trivial, h⟩
    | log entry => exact ⟨rfl, trivial, h⟩
    | _ => cases hnote
  group := by
    rintro state journal table name ⟨rfl, h⟩
    exact ⟨rfl, rfl, h⟩
  admin := by
    rintro state journal account ⟨rfl, h⟩
    exact ⟨rfl, rfl, h⟩
  save := by
    rintro state journal record model values ⟨rfl, h⟩
    exact ⟨rfl, rfl, h⟩
  pick := by
    rintro state journal table draws ⟨rfl, h⟩
    exact ⟨rfl, ⟨draws, rfl⟩, h⟩
  relate := by
    rintro state journal record field targets ⟨rfl, h⟩
    exact ⟨rfl, rfl, h⟩

/-- A dry run leaves the store that its journal leads to. -/
theorem runRegistry_replayed (now : Instant) (registry : Registry) (settings : Settings)
    (draws : Draws) :
    let run := (Generation.runRegistry store now registry settings { store := {}, draws }).2
    run.store = after run.journal ∧ Answered run.journal :=
  replayed.runRegistry registry settings { store := {}, draws } ⟨rfl, trivial⟩

/-! ## Rows -/

theorem applied_rows {store : MemoryStore} {event : Event} (h : store.Answers event) :
    (store.applied event).rows = event.row?.toList ++ store.rows := by
  cases event with
  | line text => rfl
  | log entry => rfl
  | groupEnsured table name answer => exact ensureGroup_rows table name store
  | adminEnsured account answer => exact ensureAdmin_rows account store
  | saved record model values answer =>
      change (save record model values store).1 = answer at h
      change (save record model values store).2.rows = _
      rcases save_cases store record model values with ⟨-, hsave⟩ | ⟨failure, -, hsave⟩
      · rw [hsave] at h ⊢
        subst h
        rfl
      · rw [hsave] at h ⊢
        subst h
        rfl
  | picked table answer => rfl
  | related record field targets answer => exact relate_rows record field targets store

variable {journal : List Event}

/-- The rows are those of the instances that were saved, the latest first. -/
theorem after_rows (h : Answered journal) : (after journal).rows = journal.filterMap Event.row? := by
  induction journal with
  | nil => rfl
  | cons event past ih =>
      change ((after past).applied event).rows = _
      rw [applied_rows h.1, ih h.2, List.filterMap_cons]
      cases event.row? <;> rfl

/-- The store and the ledger have the same records in the same order. -/
theorem after_records (h : Answered journal) :
    (after journal).records = (Ledger.ofJournal journal).records := by
  unfold records Ledger.ofJournal
  rw [after_rows h, List.map_filterMap]
  exact List.filterMap_congr fun event _ => event.created?_eq_map_row?.symm

theorem not_mem_records_of_saved {store : MemoryStore} {event : Event} {row : Record × Values}
    (h : store.Answers event) (hrow : event.row? = some row) : row.1 ∉ store.records := by
  obtain ⟨model, rfl⟩ := Event.eq_saved_of_row? hrow
  change (save row.1 model row.2 store).1 = .ok () at h
  rcases save_cases store row.1 model row.2 with ⟨hfault, -⟩ | ⟨failure, -, hsave⟩
  · exact not_mem_records_of_saveFault?_eq_none hfault
  · rw [hsave] at h
    cases h

theorem after_records_nodup (h : Answered journal) : (after journal).records.Nodup := by
  induction journal with
  | nil => exact List.nodup_nil
  | cons event past ih =>
      change (((after past).applied event).rows.map Prod.fst).Nodup
      rw [applied_rows h.1]
      cases hrow : event.row? with
      | none => exact ih h.2
      | some row => exact List.nodup_cons.2 ⟨not_mem_records_of_saved h.1 hrow, ih h.2⟩

/-- A row stems from an instance that was saved when the rows below it were there. -/
theorem exists_saved_of_rows (h : Answered journal) {newer older : List (Record × Values)}
    {record : Record} {values : Values}
    (hrows : (after journal).rows = newer ++ (record, values) :: older) :
    ∃ later model past, journal = later ++ .saved record model values (.ok ()) :: past ∧
      (after past).rows = older := by
  rw [after_rows h] at hrows
  obtain ⟨front, back, rfl, -, hback⟩ := List.filterMap_eq_append_iff.1 hrows
  obtain ⟨gap, event, past, rfl, -, hevent, holder⟩ := List.filterMap_eq_cons_iff.1 hback
  obtain ⟨model, rfl⟩ := Event.eq_saved_of_row? hevent
  have hsplit : front ++ (gap ++ .saved record model values (.ok ()) :: past) =
      (front ++ gap) ++ .saved record model values (.ok ()) :: past := by simp
  refine ⟨front ++ gap, model, past, hsplit, ?_⟩
  rw [after_rows (h.of_split hsplit).2, holder]

end MemoryStore

end SampleData
