import SampleData.Proofs.Calendar
import SampleData.Proofs.Draws
import SampleData.Synthesis

/-!
# Values that are made up

The forms that made-up values take.  None of them is a link, and a moment among them lies
between the start of the current decade and now.
-/

namespace SampleData

def Value.Datable : Value → Prop
  | .dateTime instant => instant.date.HasFourDigits
  | .date day => day.HasFourDigits
  | _ => True

namespace Synthesis

variable {α : Type} {form : α → Value}

theorem asValue_fst (sampler : Sampler (Except Failure α)) (draws : Draws) :
    (asValue form sampler draws).1 = (sampler draws).1.map fun made => some (form made) := rfl

theorem asValue_eq_ok {sampler : Sampler (Except Failure α)} {draws : Draws} {made : Value}
    (h : (asValue form sampler draws).1 = .ok (some made)) :
    ∃ content, (sampler draws).1 = .ok content ∧ form content = made := by
  rw [asValue_fst] at h
  cases hresult : (sampler draws).1 with
  | error failure =>
      rw [hresult] at h
      cases h
  | ok content =>
      rw [hresult] at h
      cases h
      exact ⟨content, rfl, rfl⟩

theorem always_eq_ok {sampler : Sampler α} {draws : Draws} {made : Value}
    (h : (always form sampler draws).1 = .ok (some made)) : form (sampler draws).1 = made := by
  cases h
  rfl

theorem emailText_of_some {limit : Nat} {draws : Draws} {address : String}
    (h : (Fake.emailWithin limit draws).1 = some address) :
    (emailText limit draws).1 = .ok address := by
  rw [emailText, bind_apply, h]
  rfl

theorem emailText_of_none {limit : Nat} {draws : Draws} (h : (Fake.emailWithin limit draws).1 = none) :
    (emailText limit draws).1 = .error (.emailTooShort limit) := by
  rw [emailText, bind_apply, h]
  rfl

theorem value_misfit {field : Field} {source : TextSource} (hsource : field.source = some source)
    (hkind : field.kind.isText = false) (now : Instant) (draws : Draws) :
    value now field draws = (.error (.sourceMisfit source field.kind field.name), draws) := by
  simp only [value, hsource, namedSourceText, hkind]
  rfl

/-- The forms of made-up values, moments with the draws they come from. -/
inductive Form (now : Instant) (field : Field) (draws : Draws) : Value → Prop
  | text (content : String) : Form now field draws (.text content)
  | integer (number : Int) : Form now field draws (.integer number)
  | decimal (numeral : String) : Form now field draws (.decimal numeral)
  | boolean (flag : Bool) : Form now field draws (.boolean flag)
  | dateTime {instant : Instant} (h : (dateTime now field draws).1 = .ok instant) :
      Form now field draws (.dateTime instant)
  | date {day : Date} (h : (date now field draws).1 = .ok day) : Form now field draws (.date day)

theorem value_form {now : Instant} {field : Field} {draws : Draws} {made : Value}
    (h : (value now field draws).1 = .ok (some made)) : Form now field draws made := by
  unfold value at h
  cases hsource : field.source with
  | some source =>
      rw [hsource] at h
      obtain ⟨content, -, rfl⟩ := asValue_eq_ok h
      exact .text content
  | none =>
      rw [hsource] at h
      dsimp only [byKind] at h
      cases hkind : field.kind with
      | shortText | decimal | email =>
          rw [hkind] at h
          obtain ⟨content, -, rfl⟩ := asValue_eq_ok h
          constructor
      | longText | boolean | integer | url =>
          rw [hkind] at h
          obtain rfl := always_eq_ok h
          constructor
      | dateTime =>
          rw [hkind] at h
          obtain ⟨instant, hinstant, rfl⟩ := asValue_eq_ok h
          exact .dateTime hinstant
      | date =>
          rw [hkind] at h
          obtain ⟨day, hday, rfl⟩ := asValue_eq_ok h
          exact .date hday
      | foreignKey | manyToMany | other =>
          rw [hkind] at h
          cases h

theorem value_ne_record (now : Instant) (field : Field) (draws : Draws) (target : Record) :
    (value now field draws).1 ≠ .ok (some (.record target)) := by
  intro h
  cases value_form h

/-! ## Moments -/

theorem dateTimeThisDecade_mem {now instant : Instant} {draws : Draws}
    (h : (dateTimeThisDecade now draws).1 = .ok instant) :
    ∃ start, Date.decadeStart? now.date.year = some start ∧
      start.midnight.seconds ≤ instant.seconds ∧ instant.seconds ≤ now.seconds := by
  unfold dateTimeThisDecade at h
  cases hstart : Date.decadeStart? now.date.year with
  | none =>
      rw [hstart] at h
      cases h
  | some start =>
      rw [hstart] at h
      have hle : start.midnight.seconds ≤ now.seconds := by
        have hday : start.number ≤ now.seconds / Calendar.daySeconds := Date.decadeStart_le hstart
        simp only [Date.midnight, Calendar.daySeconds] at hday ⊢
        omega
      cases h
      exact ⟨start, rfl, Draws.between_mem hle draws⟩

theorem dateThisDecade_mem {now : Instant} {day : Date} {draws : Draws}
    (h : (dateThisDecade now draws).1 = .ok day) :
    ∃ start, Date.decadeStart? now.date.year = some start ∧
      start.number ≤ day.number ∧ day.number ≤ now.date.number := by
  unfold dateThisDecade at h
  cases hstart : Date.decadeStart? now.date.year with
  | none =>
      rw [hstart] at h
      cases h
  | some start =>
      rw [hstart] at h
      cases h
      exact ⟨start, rfl, Draws.between_mem (Date.decadeStart_le hstart) draws⟩

theorem dateTime_hasFourDigits {now instant : Instant} (hnow : now.date.HasFourDigits)
    {field : Field} {draws : Draws} (h : (dateTime now field draws).1 = .ok instant) :
    instant.date.HasFourDigits := by
  unfold dateTime at h
  split at h
  · cases h
    exact hnow
  · obtain ⟨start, hstart, hafter, hbefore⟩ := dateTimeThisDecade_mem h
    refine hnow.of_decade hstart ?_ ?_
    · simp only [Date.midnight, Instant.date, Calendar.daySeconds] at hafter ⊢
      omega
    · simp only [Instant.date, Calendar.daySeconds]
      omega

theorem date_hasFourDigits {now : Instant} {day : Date} (hnow : now.date.HasFourDigits)
    {field : Field} {draws : Draws} (h : (date now field draws).1 = .ok day) :
    day.HasFourDigits := by
  unfold date at h
  split at h
  · cases h
    exact hnow
  · obtain ⟨start, hstart, hafter, hbefore⟩ := dateThisDecade_mem h
    exact hnow.of_decade hstart hafter hbefore

/-- As long as now can be written, so can all that is made up. -/
theorem value_datable {now : Instant} (hnow : now.date.HasFourDigits) {field : Field}
    {draws : Draws} {made : Value} (h : (value now field draws).1 = .ok (some made)) :
    made.Datable := by
  cases value_form h with
  | dateTime hinstant => exact dateTime_hasFourDigits hnow hinstant
  | date hday => exact date_hasFourDigits hnow hday
  | _ => trivial

end Synthesis

end SampleData
