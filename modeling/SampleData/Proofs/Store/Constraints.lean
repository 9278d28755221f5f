import Mathlib.Data.List.Basic
import SampleData.Proofs.Store.Memory

/-!
# Constraints of a store in memory

What holds of a store in memory after any calls whatever, as long as every table has one model:
required fields have values, unique values are not repeated, links lead to saved records, and
link sets are kept for saved records only.  A call that fails changes nothing.
-/

namespace SampleData

namespace MemoryStore

structure Catalog where
  modelOf : String → Model
  table_modelOf : ∀ table, (modelOf table).table = table

def Catalog.fieldsOf (catalog : Catalog) (table : String) : List Field :=
  (catalog.modelOf table).fields

/-- A call of a store.  What is to be saved is saved under the model of a table. -/
inductive Call where
  | ensureGroup (table name : String)
  | ensureAdmin (account : Account)
  | save (record : Record) (table : String) (values : Values)
  | pick (table : String) (draws : Draws)
  | relate (record : Record) (field : String) (targets : List Record)

/-- Make a call.  Of an answer without a failure only that is told. -/
def Call.make (catalog : Catalog) : Call → StateM MemoryStore (Except Failure Unit)
  | ensureGroup table name => fun state =>
      let (answer, later) := store.ensureGroup table name state
      (answer.map fun _ => (), later)
  | ensureAdmin account => fun state =>
      let (answer, later) := store.ensureAdmin account state
      (answer.map fun _ => (), later)
  | save record table values => store.save record (catalog.modelOf table) values
  | pick table draws => fun state =>
      let (answer, _, later) := store.pick table draws state
      (answer.map fun _ => (), later)
  | relate record field targets => store.relate record field targets

def afterCalls (catalog : Catalog) (calls : List Call) (state : MemoryStore) : MemoryStore :=
  calls.foldl (fun state call => (call.make catalog state).2) state

structure Constrained (catalog : Catalog) (state : MemoryStore) : Prop where
  /-- Every record has one row. -/
  distinct : state.records.Nodup
  required : ∀ row ∈ state.rows, ∀ field ∈ catalog.fieldsOf row.1.table,
    field.required = true → ∃ value, row.2.get? field.name = some value
  unique : ∀ row ∈ state.rows, ∀ other ∈ state.rows, row.1.table = other.1.table →
    ∀ field ∈ catalog.fieldsOf row.1.table, field.unique = true →
      ∀ value, row.2.get? field.name = some value → other.2.get? field.name = some value →
        row = other
  linked : ∀ row ∈ state.rows, ∀ field ∈ catalog.fieldsOf row.1.table,
    ∀ target, row.2.get? field.name = some (.record target) → target ∈ state.records
  related : ∀ entry ∈ state.links, entry.1.1 ∈ state.records

/-! ## What is admitted -/

variable {catalog : Catalog} {state : MemoryStore}

theorem holds_eq_true_iff {table name : String} {value : Value} :
    state.holds table name value = true ↔
      ∃ row ∈ state.rows, row.1.table = table ∧ row.2.get? name = some value := by
  simp [holds, rowsOf]

theorem missingLink?_eq_none_iff {value : Option Value} :
    state.missingLink? value = none ↔
      ∀ target, value = some (.record target) → target ∈ state.records := by
  constructor
  · rintro hnone target rfl
    by_contra hmissing
    have hhas : state.has target ≠ true := fun h => hmissing (has_iff_mem_records.1 h)
    simp [missingLink?, hhas] at hnone
  · intro hsaved
    cases hlink : state.missingLink? value with
    | none => rfl
    | some target =>
        obtain ⟨hvalue, hmissing⟩ := missingLink?_eq_some hlink
        exact absurd (hsaved target hvalue) hmissing

/--
Nothing stands against a value that is there if it must be, leads to a saved record if it is a
link, and is new if it must be.
-/
theorem fieldFault?_eq_none_iff {table : String} {values : Values} {field : Field} :
    state.fieldFault? table values field = none ↔
      (field.required = true → ∃ value, values.get? field.name = some value) ∧
      (∀ target, values.get? field.name = some (.record target) → target ∈ state.records) ∧
      (field.unique = true → ∀ value, values.get? field.name = some value →
        ¬ ∃ row ∈ state.rows, row.1.table = table ∧ row.2.get? field.name = some value) := by
  rw [← missingLink?_eq_none_iff]
  simp only [← holds_eq_true_iff]
  unfold fieldFault?
  cases hvalue : values.get? field.name with
  | none => cases field.required <;> simp [missingLink?]
  | some value =>
      cases hlink : state.missingLink? (some value) with
      | some target => simp [hlink]
      | none => simp [hlink]

theorem saveFault?_eq_none_iff {record : Record} {model : Model} {values : Values} :
    state.saveFault? record model values = none ↔
      record.table = model.table ∧ record ∉ state.records ∧
        ∀ field ∈ model.fields, state.fieldFault? model.table values field = none := by
  unfold saveFault?
  rw [← has_iff_mem_records]
  by_cases htable : record.table = model.table
  · cases state.has record <;> simp [htable]
  · simp [htable]

theorem exists_value_of_save {record : Record} {model : Model} {values : Values}
    (h : (save record model values state).1 = .ok ()) {field : Field} (hfield : field ∈ model.fields)
    (hrequired : field.required = true) : ∃ value, values.get? field.name = some value := by
  rcases save_cases state record model values with ⟨hfault, -⟩ | ⟨failure, -, hsave⟩
  · have hnone := (saveFault?_eq_none_iff.1 hfault).2.2 field hfield
    exact (fieldFault?_eq_none_iff.1 hnone).1 hrequired
  · rw [hsave] at h
    cases h

/-! ## What calls keep -/

theorem constrained_empty : Constrained catalog {} where
  distinct := List.nodup_nil
  required := nofun
  unique := nofun
  linked := nofun
  related := nofun

theorem Constrained.congr {later : MemoryStore} (h : Constrained catalog state)
    (hrows : later.rows = state.rows) (hlinks : later.links = state.links) :
    Constrained catalog later := by
  have hrecords : later.records = state.records := congrArg (List.map Prod.fst) hrows
  constructor
  · rw [hrecords]
    exact h.distinct
  · rw [hrows]
    exact h.required
  · rw [hrows]
    exact h.unique
  · rw [hrows, hrecords]
    exact h.linked
  · rw [hlinks, hrecords]
    exact h.related

theorem Constrained.save (h : Constrained catalog state) (record : Record) (table : String)
    (values : Values) :
    Constrained catalog (MemoryStore.save record (catalog.modelOf table) values state).2 := by
  rcases save_cases state record (catalog.modelOf table) values with
    ⟨hfault, hsave⟩ | ⟨failure, -, hsave⟩
  · rw [hsave]
    obtain ⟨htable, hfresh, hfields⟩ := saveFault?_eq_none_iff.1 hfault
    have hmodel : catalog.modelOf record.table = catalog.modelOf table := by
      rw [htable, catalog.table_modelOf]
    have hadmitted := fun field (hfield : field ∈ catalog.fieldsOf record.table) =>
      fieldFault?_eq_none_iff.1 (hfields field (hmodel ▸ hfield))
    -- A new row clashes with no older one of its table.
    have hnew : ∀ row ∈ state.rows, record.table = row.1.table →
        ∀ field ∈ catalog.fieldsOf record.table, field.unique = true → ∀ value,
          values.get? field.name = some value → row.2.get? field.name ≠ some value := by
      intro row hrow hsame field hfield hunique value hvalue hheld
      exact (hadmitted field hfield).2.2 hunique value hvalue
        ⟨row, hrow, hsame.symm.trans htable, hheld⟩
    constructor
    · exact List.nodup_cons.2 ⟨hfresh, h.distinct⟩
    · intro row hrow field hfield
      rcases List.mem_cons.1 hrow with rfl | hrow
      · exact (hadmitted field hfield).1
      · exact h.required row hrow field hfield
    · intro row hrow other hother hsame field hfield hunique value hvalue hheld
      rcases List.mem_cons.1 hrow with rfl | hrow <;> rcases List.mem_cons.1 hother with rfl | hother
      · rfl
      · exact absurd hheld (hnew other hother hsame field hfield hunique value hvalue)
      · have hfield' : field ∈ catalog.fieldsOf record.table := hsame ▸ hfield
        exact absurd hvalue (hnew row hrow hsame.symm field hfield' hunique value hheld)
      · exact h.unique row hrow other hother hsame field hfield hunique value hvalue hheld
    · intro row hrow field hfield target hvalue
      have hold : target ∈ state.records := by
        rcases List.mem_cons.1 hrow with rfl | hrow
        · exact (hadmitted field hfield).2.1 target hvalue
        · exact h.linked row hrow field hfield target hvalue
      exact List.mem_cons_of_mem record hold
    · intro entry hentry
      exact List.mem_cons_of_mem record (h.related entry hentry)
  · rw [hsave]
    exact h

theorem Constrained.relate (h : Constrained catalog state) (record : Record) (name : String)
    (targets : List Record) :
    Constrained catalog (MemoryStore.relate record name targets state).2 := by
  unfold MemoryStore.relate
  by_cases hhas : state.has record = true
  · rw [if_pos hhas]
    constructor
    · exact h.distinct
    · exact h.required
    · exact h.unique
    · exact h.linked
    · intro entry hentry
      rcases List.mem_cons.1 hentry with rfl | hentry
      · exact has_iff_mem_records.1 hhas
      · exact h.related entry (List.mem_of_mem_filter hentry)
  · rw [if_neg hhas]
    exact h

theorem Constrained.make (h : Constrained catalog state) (call : Call) :
    Constrained catalog (call.make catalog state).2 := by
  cases call with
  | ensureGroup table name =>
      change Constrained catalog (ensureGroup table name state).2
      unfold MemoryStore.ensureGroup
      split
      · exact h
      · exact h.congr rfl rfl
  | ensureAdmin account =>
      change Constrained catalog (ensureAdmin account state).2
      unfold MemoryStore.ensureAdmin
      split
      · exact h.congr rfl rfl
      · exact h
  | save record table values => exact h.save record table values
  | pick table draws => exact h
  | relate record field targets => exact h.relate record field targets

theorem Constrained.afterCalls (h : Constrained catalog state) (calls : List Call) :
    Constrained catalog (afterCalls catalog calls state) := by
  induction calls generalizing state with
  | nil => exact h
  | cons call rest ih => exact ih (h.make call)

theorem Call.make_of_error {call : Call} {failure : Failure}
    (h : (call.make catalog state).1 = .error failure) : (call.make catalog state).2 = state := by
  cases call with
  | ensureGroup table name =>
      change Except.map _ (MemoryStore.ensureGroup table name state).1 = _ at h
      unfold MemoryStore.ensureGroup at h
      split at h
      · cases h
      · cases h
  | ensureAdmin account =>
      change Except.map _ (MemoryStore.ensureAdmin account state).1 = _ at h
      unfold MemoryStore.ensureAdmin at h
      split at h
      · cases h
      · cases h
  | save record table values =>
      change (MemoryStore.save record (catalog.modelOf table) values state).1 = _ at h
      change (MemoryStore.save record (catalog.modelOf table) values state).2 = _
      rcases save_cases state record (catalog.modelOf table) values with
        ⟨-, hsave⟩ | ⟨fault, -, hsave⟩
      · rw [hsave] at h
        cases h
      · rw [hsave]
  | pick table draws => rfl
  | relate record field targets =>
      change (MemoryStore.relate record field targets state).1 = _ at h
      change (MemoryStore.relate record field targets state).2 = _
      unfold MemoryStore.relate at h ⊢
      by_cases hhas : state.has record = true
      · rw [if_pos hhas] at h
        cases h
      · rw [if_neg hhas]

/--
Any calls lead from an empty store to one that keeps its constraints, and there a failing call
changes nothing.
-/
theorem afterCalls_constrained (catalog : Catalog) (calls : List Call) :
    Constrained catalog (afterCalls catalog calls {}) ∧
      ∀ (call : Call) (failure : Failure),
        (call.make catalog (afterCalls catalog calls {})).1 = .error failure →
          (call.make catalog (afterCalls catalog calls {})).2 = afterCalls catalog calls {} :=
  ⟨constrained_empty.afterCalls calls, fun _ _ h => Call.make_of_error h⟩

/-- A second account with the handle of the first is turned down, and the first stays. -/
theorem afterCalls_constrained_repeated_handle :
    let account := (Model.ofName "app" "account").addField
      { name := "handle", kind := .shortText, unique := true }
    let catalog : Catalog :=
      { modelOf := fun table => { account with table }, table_modelOf := fun _ => rfl }
    let first : Call := .save ⟨"account", "a"⟩ "account" [("handle", .text "x")]
    let second : Call := .save ⟨"account", "b"⟩ "account" [("handle", .text "x")]
    (second.make catalog (afterCalls catalog [first] {})).1 =
        .error (.valueRepeated "account" "handle") ∧
      (second.make catalog (afterCalls catalog [first] {})).2 = afterCalls catalog [first] {} ∧
      (afterCalls catalog [first] {}).records = [⟨"account", "a"⟩] := by
  intro account catalog first second
  have hfails : (second.make catalog (afterCalls catalog [first] {})).1 =
      .error (.valueRepeated "account" "handle") := by decide
  exact ⟨hfails, (afterCalls_constrained catalog [first]).2 second _ hfails, by decide⟩

end MemoryStore

end SampleData
