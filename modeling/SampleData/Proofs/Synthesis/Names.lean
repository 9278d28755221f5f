import SampleData.Proofs.Synthesis

/-!
# Names of fields

The name of a short text is looked at in small letters.  The names that mark a moment or an
index number are compared as they are written, and for these alone does the case of letters count.
-/

namespace SampleData

namespace Synthesis

variable {α : Type}

/-! ## Samplers that agree -/

/-- Two samplers that give the same, or both fail, and leave the same draws. -/
def Agree (one two : Sampler (Except Failure α)) : Prop :=
  ∀ draws, (one draws).1.toOption = (two draws).1.toOption ∧ (one draws).2 = (two draws).2

theorem Agree.refl (sampler : Sampler (Except Failure α)) : Agree sampler sampler :=
  fun _ => ⟨rfl, rfl⟩

theorem Agree.of_eq {one two : Sampler (Except Failure α)} (h : one = two) : Agree one two :=
  h ▸ Agree.refl one

theorem Agree.error (one two : Failure) :
    Agree (pure (.error one) : Sampler (Except Failure α)) (pure (.error two)) :=
  fun _ => ⟨rfl, rfl⟩

theorem toOption_map {β : Type} (result : Except Failure α) (form : α → β) :
    (result.map form).toOption = result.toOption.map form := by
  cases result <;> rfl

theorem Agree.asValue {one two : Sampler (Except Failure α)} (h : Agree one two) (form : α → Value) :
    Agree (asValue form one) (asValue form two) := by
  intro draws
  obtain ⟨hresult, hleft⟩ := h draws
  refine ⟨?_, hleft⟩
  change ((one draws).1.map fun made => some (form made)).toOption =
    ((two draws).1.map fun made => some (form made)).toOption
  rw [toOption_map, toOption_map, hresult]

/-! ## Fields of another name -/

def exactNames : FieldKind → List String
  | .dateTime | .date => momentNames
  | .integer => ["index_number"]
  | _ => []

variable {field : Field} {name : String}

theorem shortText_renamed (hsame : Text.sameLetters field.name.toList name.toList = true) :
    shortText { field with name } = shortText field := by
  have hsmall : Text.lower name.toList = Text.lower field.name.toList := (eq_of_beq hsame).symm
  simp only [shortText, hsmall]

theorem recordsMoment_congr {one two : Field} (h : one.name ∈ momentNames ↔ two.name ∈ momentNames) :
    recordsMoment one = recordsMoment two := by
  simp only [recordsMoment, List.contains_eq_mem, h]

theorem integer_renamed (hexact : field.name ∈ ["index_number"] ↔ name ∈ ["index_number"]) :
    integer { field with name } = integer field := by
  simp only [List.mem_singleton] at hexact
  simp only [integer, hexact]

theorem decimal_renamed : Agree (decimal { field with name }) (decimal field) := by
  unfold decimal
  dsimp only
  split
  · exact Agree.error _ _
  · exact Agree.refl _

theorem namedSourceText_renamed (source : TextSource) :
    Agree (namedSourceText { field with name } source) (namedSourceText field source) := by
  unfold namedSourceText
  dsimp only
  split
  · exact Agree.refl _
  · exact Agree.error _ _

/--
Without a source, a field's value hangs on its name by the names that its kind is compared with.
-/
theorem byKind_renamed (now : Instant)
    (hsame : Text.sameLetters field.name.toList name.toList = true)
    (hexact : field.name ∈ exactNames field.kind ↔ name ∈ exactNames field.kind) :
    Agree (byKind now { field with name }) (byKind now field) := by
  unfold byKind
  dsimp only
  cases hkind : field.kind with
  | shortText => exact (Agree.of_eq (shortText_renamed hsame)).asValue .text
  | dateTime =>
      rw [hkind] at hexact
      refine Agree.asValue (Agree.of_eq ?_) .dateTime
      rw [dateTime, dateTime, recordsMoment_congr hexact.symm]
  | date =>
      rw [hkind] at hexact
      refine Agree.asValue (Agree.of_eq ?_) .date
      rw [date, date, recordsMoment_congr hexact.symm]
  | integer =>
      rw [hkind] at hexact
      exact Agree.of_eq (congrArg (always .integer) (integer_renamed hexact))
  | decimal => exact decimal_renamed.asValue .decimal
  | longText | boolean | url | email | foreignKey | manyToMany | other => exact Agree.refl _

/--
A field whose name is written with letters of another case is given the same value, or none both
times, and the same draws are left, for every kind, source and limit.  A field without a source
that holds a moment or an integer must be one that its kind is compared with under both names,
or under neither.
-/
theorem value_renamed (now : Instant) (draws : Draws)
    (hsame : Text.sameLetters field.name.toList name.toList = true)
    (hexact : field.source = none →
      (field.name ∈ exactNames field.kind ↔ name ∈ exactNames field.kind)) :
    (value now { field with name } draws).1.toOption = (value now field draws).1.toOption ∧
      (value now { field with name } draws).2 = (value now field draws).2 := by
  have hagree : Agree (value now { field with name }) (value now field) := by
    unfold value
    dsimp only
    cases hsource : field.source with
    | some source => exact (namedSourceText_renamed source).asValue .text
    | none => exact byKind_renamed now hsame (hexact hsource)
  exact hagree draws

def workEmail : Field :=
  { name := "work_email", kind := .shortText, maxLength := some 30 }

/-- A short text is an address whichever letters of its field's name are capitals. -/
theorem value_renamed_work_email :
    Text.sameLetters workEmail.name.toList "Work_EMAIL".toList = true ∧
      (value ⟨0, 0⟩ { workEmail with name := "Work_EMAIL" } (Draws.ofSeed 1)).1.toOption =
        (value ⟨0, 0⟩ workEmail (Draws.ofSeed 1)).1.toOption ∧
      (value ⟨0, 0⟩ { workEmail with name := "Work_EMAIL" } (Draws.ofSeed 1)).2 =
        (value ⟨0, 0⟩ workEmail (Draws.ofSeed 1)).2 := by
  have hsame : Text.sameLetters workEmail.name.toList "Work_EMAIL".toList = true := by decide
  exact ⟨hsame, value_renamed ⟨0, 0⟩ (Draws.ofSeed 1) hsame fun _ => by decide⟩

/--
With a capital letter the name of a moment is one like any other, and five seconds are lost
here.
-/
theorem value_changed_capital_created :
    Text.sameLetters "created".toList "Created".toList = true ∧
      (value ⟨1577836805, 0⟩ { name := "created", kind := .dateTime } { state := 1, queued := [0] }).1 =
        .ok (some (.dateTime ⟨1577836805, 0⟩)) ∧
      (value ⟨1577836805, 0⟩ { name := "Created", kind := .dateTime } { state := 1, queued := [0] }).1 =
        .ok (some (.dateTime ⟨1577836800, 0⟩)) := by
  exact ⟨by decide, rfl, rfl⟩

end Synthesis

end SampleData
