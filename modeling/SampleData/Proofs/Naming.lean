import SampleData.Run.Generation

/-!
# Plain names

The names that may stand in a statement, and the models all of whose names may.  A run checks
each model before it makes an instance of it, and the check lets exactly these models pass.
-/

namespace SampleData

namespace Identifier

/-- A letter `A` to `Z` or `a` to `z` or an underscore, and then letters, digits and underscores. -/
def Plain (name : String) : Prop :=
  ∃ first rest, name.toList = first :: rest ∧
    ('A' ≤ first ∧ first ≤ 'Z' ∨ 'a' ≤ first ∧ first ≤ 'z' ∨ first = '_') ∧
    ∀ c ∈ rest, 'A' ≤ c ∧ c ≤ 'Z' ∨ 'a' ≤ c ∧ c ≤ 'z' ∨ c = '_' ∨ '0' ≤ c ∧ c ≤ '9'

theorem isStart_iff {c : Char} :
    isStart c = true ↔ 'A' ≤ c ∧ c ≤ 'Z' ∨ 'a' ≤ c ∧ c ≤ 'z' ∨ c = '_' := by
  simp [isStart, Text.isUpperLetter, Text.isLowerLetter, or_assoc]

theorem isRest_iff {c : Char} :
    isRest c = true ↔ 'A' ≤ c ∧ c ≤ 'Z' ∨ 'a' ≤ c ∧ c ≤ 'z' ∨ c = '_' ∨ '0' ≤ c ∧ c ≤ '9' := by
  simp only [isRest, Bool.or_eq_true, isStart_iff, or_assoc]
  simp [Text.isPlainDigit]

theorem test_iff_plain {name : String} : test name = true ↔ Plain name := by
  unfold test Plain
  cases name.toList with
  | nil => simp [isIdentifier]
  | cons first rest =>
      have hrest : rest.all isRest = true ↔ ∀ c ∈ rest, isRest c = true := List.all_eq_true
      simp only [isIdentifier, Bool.and_eq_true, hrest, isStart_iff, isRest_iff]
      constructor
      · rintro ⟨hstart, hall⟩
        exact ⟨first, rest, rfl, hstart, hall⟩
      · rintro ⟨_, _, hlist, hstart, hall⟩
        cases hlist
        exact ⟨hstart, hall⟩

instance : DecidablePred Plain := fun _ => decidable_of_iff _ test_iff_plain

theorem require_eq_ok_iff_plain {role name : String} :
    require role name = .ok () ↔ Plain name :=
  require_eq_ok_iff.trans test_iff_plain

end Identifier

theorem Record.text_of_read {identity : String} {record : Record}
    (h : Record.read identity = .ok record) : record.text = identity := by
  unfold Record.read at h
  cases hread : Record.ofText? identity with
  | none =>
      rw [hread] at h
      cases h
  | some found =>
      rw [hread] at h
      cases h
      exact Record.text_of_ofText? hread

def Field.WellNamed (field : Field) : Prop :=
  Identifier.Plain field.name ∧ ∀ target ∈ field.target, Identifier.Plain target

instance : DecidablePred Field.WellNamed := fun _ => inferInstanceAs (Decidable (_ ∧ _))

def Model.WellNamed (model : Model) : Prop :=
  Identifier.Plain model.table ∧ ∀ field ∈ model.allFields, field.WellNamed

instance : DecidablePred Model.WellNamed := fun _ => inferInstanceAs (Decidable (_ ∧ _))

namespace Generation

theorem checkField_eq_ok_iff {field : Field} : checkField field = .ok () ↔ field.WellNamed := by
  unfold checkField Field.WellNamed
  rw [← @Identifier.require_eq_ok_iff_plain "field"]
  cases Identifier.require "field" field.name with
  | error failure => simp [bind, Except.bind]
  | ok _ =>
      cases field.target with
      | none => simp [bind, Except.bind]
      | some target => simp [bind, Except.bind, Identifier.require_eq_ok_iff_plain]

theorem checkFields_eq_ok_iff {fields : List Field} :
    checkFields fields = .ok () ↔ ∀ field ∈ fields, field.WellNamed := by
  induction fields with
  | nil => simp [checkFields]
  | cons field rest ih =>
      rw [List.forall_mem_cons, ← ih, ← checkField_eq_ok_iff, checkFields]
      cases checkField field <;> simp [bind, Except.bind]

theorem checkModel_eq_ok_iff {model : Model} : checkModel model = .ok () ↔ model.WellNamed := by
  unfold checkModel Model.WellNamed
  rw [← checkFields_eq_ok_iff, ← @Identifier.require_eq_ok_iff_plain "table"]
  cases Identifier.require "table" model.table <;> simp [bind, Except.bind]

end Generation

end SampleData
