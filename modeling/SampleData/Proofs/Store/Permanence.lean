import SampleData.Proofs.Store.Memory
import SampleData.Text.Digit

/-!
# Rows that stay

Whatever is done to a store in memory, a row that is stored stays as it is and every other row comes
in front of it, as long as nobody saves an instance under a key that is numbered later.  Numbered
keys are given out without a look at the keys in use, so that such an instance is lost.
-/

namespace SampleData

namespace MemoryStore

inductive Operation where
  | ensureGroup (table name : String)
  | ensureAdmin (account : Account)
  | save (record : Record) (model : Model) (values : Values)
  | insert (table : String) (values : Values)
  | pick (table : String) (draws : Draws)
  | relate (record : Record) (field : String) (targets : List Record)

namespace Operation

def perform (state : MemoryStore) : Operation → MemoryStore
  | ensureGroup table name => (MemoryStore.ensureGroup table name state).2
  | ensureAdmin account => (MemoryStore.ensureAdmin account state).2
  | save record model values => (MemoryStore.save record model values state).2
  | insert table values => (insertNumbered table values state).2
  | pick table draws => (MemoryStore.pick table draws state).2.2
  | relate record field targets => (MemoryStore.relate record field targets state).2

def stored? (state : MemoryStore) : Operation → Option (Record × Values)
  | save record model values =>
      match (MemoryStore.save record model values state).1 with
      | .ok _ => some (record, values)
      | .error _ => none
  | insert table values => some ((insertNumbered table values state).1, values)
  | _ => none

def numbers : Operation → Nat
  | insert _ _ => 1
  | _ => 0

/--
The records that operations put in under numbered keys, when so many numbers were used before.
-/
def numbered (used : Nat) : List Operation → List Record
  | [] => []
  | insert table _ :: rest => ⟨table, "r" ++ toString (used + 1)⟩ :: numbered (used + 1) rest
  | _ :: rest => numbered used rest

/-- No instance is saved under a key that is numbered later. -/
def SparesNumbered (used : Nat) : List Operation → Prop
  | [] => True
  | save record _ _ :: rest => record ∉ numbered used rest ∧ SparesNumbered used rest
  | insert _ _ :: rest => SparesNumbered (used + 1) rest
  | _ :: rest => SparesNumbered used rest

end Operation

def afterOperations (operations : List Operation) (state : MemoryStore) : MemoryStore :=
  operations.foldl Operation.perform state

namespace Operation

variable {state : MemoryStore} {operation : Operation} {rest operations : List Operation}

/-! ## One operation -/

theorem numbered_perform (operation : Operation) (state : MemoryStore) :
    (operation.perform state).numbered = state.numbered + operation.numbers := by
  cases operation with
  | ensureGroup table name => simp only [perform, ensureGroup_eq, numbers, Nat.add_zero]
  | ensureAdmin account => simp only [perform, ensureAdmin_eq, numbers, Nat.add_zero]
  | save record model values =>
      rcases save_cases state record model values with ⟨-, hsave⟩ | ⟨failure, -, hsave⟩
      · simp only [perform, hsave, numbers, Nat.add_zero]
      · simp only [perform, hsave, numbers, Nat.add_zero]
  | insert table values => rfl
  | pick table draws => rfl
  | relate record field targets =>
      simp only [perform, MemoryStore.relate]
      split <;> rfl

theorem stored?_save_eq_some {record : Record} {model : Model} {values : Values} {row : Record × Values}
    (h : (save record model values).stored? state = some row) :
    row = (record, values) ∧ record ∉ state.records := by
  rcases save_cases state record model values with ⟨hnone, hsave⟩ | ⟨failure, -, hsave⟩
  · simp only [stored?, hsave] at h
    cases h
    exact ⟨rfl, not_mem_records_of_saveFault?_eq_none hnone⟩
  · simp only [stored?, hsave] at h
    cases h

theorem filter_rows_of_not_mem {record : Record} (h : record ∉ state.records) :
    (state.rows.filter fun row => row.1 != record) = state.rows := by
  rw [List.filter_eq_self]
  intro row hrow
  rw [bne_iff_ne]
  rintro rfl
  exact h (List.mem_map_of_mem hrow)

/-- A row is stored in place of one of the same record, and without one to store all rows stay. -/
theorem rows_perform (operation : Operation) (state : MemoryStore) :
    (operation.perform state).rows =
      match operation.stored? state with
      | some row => row :: state.rows.filter fun other => other.1 != row.1
      | none => state.rows := by
  cases operation with
  | ensureGroup table name => exact ensureGroup_rows table name state
  | ensureAdmin account => exact ensureAdmin_rows account state
  | save record model values =>
      rcases save_cases state record model values with ⟨hnone, hsave⟩ | ⟨failure, -, hsave⟩
      · have hfresh := not_mem_records_of_saveFault?_eq_none hnone
        simp only [perform, stored?, hsave, filter_rows_of_not_mem hfresh]
      · simp only [perform, stored?, hsave]
  | insert table values => rfl
  | pick table draws => rfl
  | relate record field targets => exact relate_rows record field targets state

/-! ## Numbered keys -/

theorem exists_number_of_mem_numbered {used : Nat} {record : Record}
    (h : record ∈ numbered used operations) :
    ∃ number, used < number ∧ record.key = "r" ++ toString number := by
  induction operations generalizing used with
  | nil => cases h
  | cons operation rest ih =>
      cases operation with
      | insert table values =>
          rcases List.mem_cons.1 h with rfl | hrest
          · exact ⟨used + 1, Nat.lt_succ_self used, rfl⟩
          · obtain ⟨number, hlater, hkey⟩ := ih hrest
            exact ⟨number, by omega, hkey⟩
      | ensureGroup | ensureAdmin | save | pick | relate => exact ih h

theorem not_mem_numbered (table : String) (number : Nat) (operations : List Operation) :
    (⟨table, "r" ++ toString number⟩ : Record) ∉ numbered number operations := by
  intro h
  obtain ⟨later, hlater, hkey⟩ := exists_number_of_mem_numbered h
  have hsame : number = later := Text.eq_of_toString_eq ((String.append_right_inj "r").1 hkey)
  omega

theorem mem_numbered_cons {used : Nat} {record : Record}
    (h : record ∈ numbered (used + operation.numbers) rest) :
    record ∈ numbered used (operation :: rest) := by
  cases operation with
  | insert table values => exact List.mem_cons_of_mem _ h
  | ensureGroup | ensureAdmin | save | pick | relate => exact h

theorem SparesNumbered.tail {used : Nat} (h : SparesNumbered used (operation :: rest)) :
    SparesNumbered (used + operation.numbers) rest := by
  cases operation with
  | save record model values => exact h.2
  | ensureGroup | ensureAdmin | insert | pick | relate => exact h

/-- What is stored now is not put in again later: saves spare the keys to come, and numbers grow. -/
theorem SparesNumbered.not_mem_of_stored (h : SparesNumbered state.numbered (operation :: rest))
    {row : Record × Values} (hrow : operation.stored? state = some row) :
    row.1 ∉ numbered (state.numbered + operation.numbers) rest := by
  cases operation with
  | save record model values =>
      obtain ⟨rfl, -⟩ := stored?_save_eq_some hrow
      exact h.1
  | insert table values =>
      cases hrow
      exact not_mem_numbered table _ rest
  | ensureGroup | ensureAdmin | pick | relate => cases hrow

/-! ## Operations in turn -/

/-- A store none of whose records are put in again by operations that are still to come. -/
structure Apart (operations : List Operation) (state : MemoryStore) : Prop where
  distinct : state.records.Nodup
  unnumbered : ∀ record ∈ state.records, record ∉ numbered state.numbered operations
  spared : SparesNumbered state.numbered operations

theorem apart_empty (spared : SparesNumbered 0 operations) : Apart operations {} where
  distinct := List.nodup_nil
  unnumbered := nofun
  spared := spared

theorem Apart.fresh (h : Apart (operation :: rest) state) {row : Record × Values}
    (hrow : operation.stored? state = some row) : row.1 ∉ state.records := by
  cases operation with
  | save record model values =>
      obtain ⟨rfl, hfresh⟩ := stored?_save_eq_some hrow
      exact hfresh
  | insert table values =>
      cases hrow
      exact fun hmem => h.unnumbered _ hmem List.mem_cons_self
  | ensureGroup | ensureAdmin | pick | relate => cases hrow

theorem Apart.rows_perform (h : Apart (operation :: rest) state) :
    (operation.perform state).rows = (operation.stored? state).toList ++ state.rows := by
  rw [Operation.rows_perform]
  cases hrow : operation.stored? state with
  | none => rfl
  | some row => exact congrArg (row :: ·) (filter_rows_of_not_mem (h.fresh hrow))

theorem Apart.perform (h : Apart (operation :: rest) state) :
    Apart rest (operation.perform state) := by
  have hrecords : (operation.perform state).records =
      (operation.stored? state).toList.map Prod.fst ++ state.records := by
    rw [records, h.rows_perform, List.map_append, records]
  constructor
  · rw [hrecords]
    cases hrow : operation.stored? state with
    | none => exact h.distinct
    | some row => exact List.nodup_cons.2 ⟨h.fresh hrow, h.distinct⟩
  · intro record hmem
    rw [hrecords, List.mem_append, List.mem_map] at hmem
    rw [numbered_perform]
    rcases hmem with ⟨row, hrow, rfl⟩ | hmem
    · exact h.spared.not_mem_of_stored (Option.mem_toList.1 hrow)
    · exact fun hlater => h.unnumbered record hmem (mem_numbered_cons hlater)
  · rw [numbered_perform]
    exact h.spared.tail

theorem Apart.afterOperations {later : List Operation} (h : Apart (operations ++ later) state) :
    Apart later (afterOperations operations state) := by
  induction operations generalizing state with
  | nil => exact h
  | cons operation rest ih => exact ih h.perform

theorem Apart.rows_suffix (h : Apart operations state) :
    state.rows <:+ (MemoryStore.afterOperations operations state).rows := by
  induction operations generalizing state with
  | nil => exact List.suffix_refl _
  | cons operation rest ih =>
      have hstep : state.rows <:+ (operation.perform state).rows := by
        rw [h.rows_perform]
        exact List.suffix_append _ _
      exact hstep.trans (ih h.perform)

end Operation

/--
Of operations in turn on a store that was empty, none of which saves an instance under a key that is
numbered later, none ever takes away or changes a row: what is stored by then is the end of what is
stored at last, and each record has one row.  A record that an operation stores was not stored
before, so that each row stored is one more.
-/
theorem rows_kept (earlier later : List Operation)
    (spared : Operation.SparesNumbered 0 (earlier ++ later)) :
    let state := afterOperations earlier {}
    state.records.Nodup ∧ state.rows <:+ (afterOperations (earlier ++ later) {}).rows ∧
      ∀ operation rest, later = operation :: rest → ∀ row, operation.stored? state = some row →
        row.1 ∉ state.records ∧ (operation.perform state).rows = row :: state.rows ∧
          (operation.perform state).rows.length = state.rows.length + 1 := by
  intro state
  have happart : Operation.Apart later state := (Operation.apart_empty spared).afterOperations
  have hlast : afterOperations (earlier ++ later) {} = afterOperations later state := by
    rw [afterOperations, List.foldl_append]
    rfl
  refine ⟨happart.distinct, hlast ▸ happart.rows_suffix, ?_⟩
  rintro operation rest rfl row hrow
  have hrows := happart.rows_perform
  rw [hrow] at hrows
  exact ⟨happart.fresh hrow, hrows, by rw [hrows]; rfl⟩

/--
A numbered row stays under a note that is saved, linked to it and looked up, and a second one is
added.
-/
theorem rows_kept_second_number :
    let note := Model.ofName "app" "note"
    let record : Record := ⟨"note", "k7"⟩
    let earlier : List Operation :=
      [.insert "note" [("title", .text "old")], .save record note [("title", .text "new")],
        .relate record "related" [⟨"note", "r1"⟩], .pick "note" (Draws.ofSeed 1)]
    let second : Operation := .insert "note" []
    Operation.SparesNumbered 0 (earlier ++ [second]) ∧
      (afterOperations earlier {}).rows <:+ (afterOperations (earlier ++ [second]) {}).rows ∧
      (second.perform (afterOperations earlier {})).rows.length =
        (afterOperations earlier {}).rows.length + 1 := by
  intro note record earlier second
  have hspared : Operation.SparesNumbered 0 (earlier ++ [second]) :=
    ⟨by decide, trivial⟩
  obtain ⟨-, hsuffix, hnext⟩ := rows_kept earlier [second] hspared
  exact ⟨hspared, hsuffix, (hnext second [] rfl (⟨"note", "r2"⟩, []) (by decide)).2.2⟩

/-- A note that was saved under the first numbered key is gone when that number is given out. -/
theorem saved_row_lost_to_number :
    let note := (Model.ofName "app" "note").addField
      { name := "title", kind := .shortText, unique := true }
    let row : Record × Values := (⟨"note", "r1"⟩, [("title", .text "kept")])
    let state := afterOperations [.save row.1 note row.2] {}
    let insert : Operation := .insert "note" []
    row ∈ state.rows ∧ row.1 ∈ state.records ∧ insert.stored? state = some (row.1, []) ∧
      row ∉ (insert.perform state).rows ∧
      (insert.perform state).rows.length = state.rows.length := by
  decide

end MemoryStore

end SampleData
