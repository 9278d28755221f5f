import SampleData.Proofs.Store.Constraints

/-!
# What a store in memory admits

An instance goes through checks in turn: its table, its key, and then for each field in order that a
required value is there, that a link leads to a saved record, and that a unique value is new.  It is
saved when it passes all of them, and turned down for the first that it fails.
-/

namespace SampleData

namespace Values

/-- A value counts under a name when no later entry has the name. -/
def Holds (values : Values) (name : String) (value : Value) : Prop :=
  ∃ front back, values = front ++ (name, value) :: back ∧ ∀ entry ∈ back, entry.1 ≠ name

theorem Holds.get?_eq_some {values : Values} {name : String} {value : Value}
    (h : values.Holds name value) : values.get? name = some value := by
  obtain ⟨front, back, rfl, hback⟩ := h
  have hnone : Values.get? back name = none := get?_eq_none_iff.2 hback
  induction front with
  | nil =>
      rw [List.nil_append, get?_cons, hnone]
      exact if_pos rfl
  | cons entry front ih =>
      obtain ⟨field, first⟩ := entry
      rw [List.cons_append, get?_cons, ih]

theorem holds_of_get?_eq_some {values : Values} {name : String} {value : Value}
    (h : values.get? name = some value) : values.Holds name value := by
  induction values with
  | nil => cases h
  | cons entry rest ih =>
      obtain ⟨field, first⟩ := entry
      rw [get?_cons] at h
      cases hrest : get? rest name with
      | some later =>
          rw [hrest] at h
          obtain ⟨front, back, hsplit, hback⟩ := ih (hrest.trans h)
          exact ⟨(field, first) :: front, back, congrArg _ hsplit, hback⟩
      | none =>
          rw [hrest] at h
          obtain ⟨hname, hvalue⟩ := Option.ite_none_right_eq_some.1 h
          cases hvalue
          exact ⟨[], rest, by rw [hname]; rfl, get?_eq_none_iff.1 hrest⟩

theorem holds_iff {values : Values} {name : String} {value : Value} :
    values.Holds name value ↔ values.get? name = some value :=
  ⟨Holds.get?_eq_some, holds_of_get?_eq_some⟩

end Values

inductive Check where
  | table
  | key
  | required (field : Field)
  | link (field : Field)
  | unique (field : Field)

namespace Check

def ofField (field : Field) : List Check :=
  [.required field, .link field, .unique field]

def ofModel (model : Model) : List Check :=
  .table :: .key :: model.fields.flatMap ofField

end Check

theorem findSome?_flatMap {α β γ : Type} (elements : List α) (parts : α → List β)
    (found? : β → Option γ) :
    (elements.flatMap parts).findSome? found? =
      elements.findSome? fun element => (parts element).findSome? found? := by
  induction elements with
  | nil => rfl
  | cons first rest ih =>
      rw [List.flatMap_cons, List.findSome?_append, ih, List.findSome?_cons]
      cases (parts first).findSome? found? <;> rfl

namespace MemoryStore

variable {store : MemoryStore} {record : Record} {model : Model} {values : Values} {failure : Failure}

/-! ## Checks -/

inductive Fails (store : MemoryStore) (record : Record) (model : Model) (values : Values) :
    Check → Failure → Prop
  | table (h : record.table ≠ model.table) :
      Fails store record model values .table (.foreignTable record model.table)
  | key (h : record ∈ store.records) :
      Fails store record model values .key (.recordExists record)
  | required {field : Field} (hrequired : field.required = true)
      (h : ∀ value, ¬ values.Holds field.name value) :
      Fails store record model values (.required field) (.valueMissing field.name model.table)
  | link {field : Field} {target : Record} (hvalue : values.Holds field.name (.record target))
      (h : target ∉ store.records) :
      Fails store record model values (.link field) (.linkMissing field.name target)
  | unique {field : Field} {value : Value} {row : Record × Values} (hunique : field.unique = true)
      (hvalue : values.Holds field.name value) (hrow : row ∈ store.rows)
      (htable : row.1.table = model.table) (h : row.2.Holds field.name value) :
      Fails store record model values (.unique field) (.valueRepeated model.table field.name)

/-- The first of the checks that an instance fails is told by a failure. -/
def FailsFirst (store : MemoryStore) (record : Record) (model : Model) (values : Values)
    (checks : List Check) (failure : Failure) : Prop :=
  ∃ passed check rest, checks = passed ++ check :: rest ∧
    (∀ earlier ∈ passed, ∀ other, ¬ Fails store record model values earlier other) ∧
    Fails store record model values check failure

def fault? (store : MemoryStore) (record : Record) (model : Model) (values : Values) :
    Check → Option Failure
  | .table => if record.table ≠ model.table then some (.foreignTable record model.table) else none
  | .key => if store.has record then some (.recordExists record) else none
  | .required field =>
      if field.required && (values.get? field.name).isNone then
        some (.valueMissing field.name model.table)
      else
        none
  | .link field => (store.missingLink? (values.get? field.name)).map (.linkMissing field.name)
  | .unique field =>
      (values.get? field.name).bind fun value =>
        if field.unique && store.holds model.table field.name value then
          some (.valueRepeated model.table field.name)
        else
          none

theorem missingLink?_eq_some_iff {value : Option Value} {target : Record} :
    store.missingLink? value = some target ↔
      value = some (.record target) ∧ target ∉ store.records := by
  constructor
  · exact missingLink?_eq_some
  · rintro ⟨rfl, hmissing⟩
    exact if_neg fun hhas => hmissing (has_iff_mem_records.1 hhas)

theorem fault?_eq_some_iff {check : Check} :
    store.fault? record model values check = some failure ↔
      Fails store record model values check failure := by
  cases check with
  | table =>
      rw [fault?, Option.ite_none_right_eq_some]
      constructor
      · rintro ⟨hother, hfailure⟩
        cases hfailure
        exact .table hother
      · intro h
        cases h with
        | table hother => exact ⟨hother, rfl⟩
  | key =>
      rw [fault?, Option.ite_none_right_eq_some, has_iff_mem_records]
      constructor
      · rintro ⟨hmem, hfailure⟩
        cases hfailure
        exact .key hmem
      · intro h
        cases h with
        | key hmem => exact ⟨hmem, rfl⟩
  | required field =>
      simp only [fault?, Option.ite_none_right_eq_some, Bool.and_eq_true, Option.isNone_iff_eq_none,
        Option.eq_none_iff_forall_ne_some, ne_eq, ← Values.holds_iff]
      constructor
      · rintro ⟨⟨hrequired, hnone⟩, hfailure⟩
        cases hfailure
        exact .required hrequired hnone
      · intro h
        cases h with
        | required hrequired hnone => exact ⟨⟨hrequired, hnone⟩, rfl⟩
  | link field =>
      simp only [fault?, Option.map_eq_some_iff, missingLink?_eq_some_iff, ← Values.holds_iff]
      constructor
      · rintro ⟨target, ⟨hvalue, hmissing⟩, rfl⟩
        exact .link hvalue hmissing
      · intro h
        cases h with
        | link hvalue hmissing => exact ⟨_, ⟨hvalue, hmissing⟩, rfl⟩
  | unique field =>
      simp only [fault?, Option.bind_eq_some_iff, Option.ite_none_right_eq_some, Bool.and_eq_true,
        holds_eq_true_iff, ← Values.holds_iff]
      constructor
      · rintro ⟨value, hvalue, ⟨hunique, row, hrow, htable, hheld⟩, hfailure⟩
        cases hfailure
        exact .unique hunique hvalue hrow htable hheld
      · intro h
        cases h with
        | unique hunique hvalue hrow htable hheld =>
            exact ⟨_, hvalue, ⟨hunique, _, hrow, htable, hheld⟩, rfl⟩

theorem fieldFault?_eq_findSome? (field : Field) :
    store.fieldFault? model.table values field =
      (Check.ofField field).findSome? (store.fault? record model values) := by
  simp only [Check.ofField, List.findSome?_cons, List.findSome?_nil, fault?, fieldFault?]
  cases values.get? field.name with
  | none => cases field.required <;> rfl
  | some value =>
      simp only [Option.isNone_some, Bool.and_false, Option.bind_some]
      cases store.missingLink? (some value) with
      | some target => rfl
      | none => cases field.unique && store.holds model.table field.name value <;> rfl

theorem saveFault?_eq_findSome? :
    store.saveFault? record model values =
      (Check.ofModel model).findSome? (store.fault? record model values) := by
  unfold saveFault? Check.ofModel
  rw [List.findSome?_cons, List.findSome?_cons, findSome?_flatMap, fault?, fault?]
  simp only [← fieldFault?_eq_findSome?]
  split
  · rfl
  · split <;> rfl

/-- An instance is turned down for the first check that it fails. -/
theorem saveFault?_eq_some_iff :
    store.saveFault? record model values = some failure ↔
      FailsFirst store record model values (Check.ofModel model) failure := by
  rw [saveFault?_eq_findSome?, List.findSome?_eq_some_iff, FailsFirst]
  simp only [fault?_eq_some_iff, Option.eq_none_iff_forall_ne_some, ne_eq, and_comm]

/-! ## Admission -/

structure Admissible (store : MemoryStore) (record : Record) (model : Model) (values : Values) :
    Prop where
  table : record.table = model.table
  fresh : record ∉ store.records
  required : ∀ field ∈ model.fields, field.required = true →
    ∃ value, values.Holds field.name value
  linked : ∀ field ∈ model.fields, ∀ target, values.Holds field.name (.record target) →
    target ∈ store.records
  unique : ∀ field ∈ model.fields, field.unique = true → ∀ value, values.Holds field.name value →
    ∀ row ∈ store.rows, row.1.table = model.table → ¬ row.2.Holds field.name value

theorem saveFault?_eq_none_iff_admissible :
    store.saveFault? record model values = none ↔ Admissible store record model values := by
  simp only [saveFault?_eq_none_iff, fieldFault?_eq_none_iff, ← Values.holds_iff]
  constructor
  · rintro ⟨htable, hfresh, hfields⟩
    exact ⟨htable, hfresh, fun field hfield => (hfields field hfield).1,
      fun field hfield => (hfields field hfield).2.1,
      fun field hfield hunique value hvalue row hrow hsame hheld =>
        (hfields field hfield).2.2 hunique value hvalue ⟨row, hrow, hsame, hheld⟩⟩
  · intro h
    refine ⟨h.table, h.fresh, fun field hfield => ⟨h.required field hfield, h.linked field hfield, ?_⟩⟩
    rintro hunique value hvalue ⟨row, hrow, hsame, hheld⟩
    exact h.unique field hfield hunique value hvalue row hrow hsame hheld

theorem Admissible.not_holds_self (h : Admissible store record model values) {field : Field}
    (hfield : field ∈ model.fields) : ¬ values.Holds field.name (.record record) :=
  fun hself => h.fresh (h.linked field hfield record hself)

/--
An instance is saved exactly if its record is new and belongs to the model's table, its required
fields have values, its links lead to saved records, itself not among them, and no row of the table
has a unique value of it.  Then its row is added as it is and nothing else changes.  Otherwise
nothing changes at all, and the first check that the instance fails is told.
-/
theorem save_admits (store : MemoryStore) (record : Record) (model : Model) (values : Values) :
    let (answer, later) := save record model values store
    (answer = .ok () ↔ Admissible store record model values) ∧
      (∀ failure, answer = .error failure ↔
        FailsFirst store record model values (Check.ofModel model) failure) ∧
      (answer = .ok () → later = { store with rows := (record, values) :: store.rows }) ∧
      (answer ≠ .ok () → later = store) ∧
      (Admissible store record model values →
        ∀ field ∈ model.fields, ¬ values.Holds field.name (.record record)) := by
  have hself : Admissible store record model values →
      ∀ field ∈ model.fields, ¬ values.Holds field.name (.record record) :=
    fun hadmissible field hfield => hadmissible.not_holds_self hfield
  rcases save_cases store record model values with ⟨hnone, hsave⟩ | ⟨found, hfault, hsave⟩
  · have hadmissible := saveFault?_eq_none_iff_admissible.1 hnone
    rw [hsave]
    refine ⟨iff_of_true rfl hadmissible, fun failure => ?_, fun _ => rfl, fun hne => absurd rfl hne,
      hself⟩
    rw [← saveFault?_eq_some_iff, hnone]
    exact iff_of_false nofun nofun
  · have hnot : ¬ Admissible store record model values := fun hadmissible => by
      rw [saveFault?_eq_none_iff_admissible.2 hadmissible] at hfault
      cases hfault
    rw [hsave]
    refine ⟨iff_of_false nofun hnot, fun failure => ?_, nofun, fun _ => rfl, hself⟩
    rw [← saveFault?_eq_some_iff, hfault, Except.error.injEq, Option.some.injEq]

end MemoryStore

end SampleData
