import SampleData.Proofs.Fake
import SampleData.Proofs.Synthesis

/-!
# Fields that always get a value

Making up a value fails for a handful of reasons, and all of them can be told from the field and
the clock: the source does not fit the kind, an address has no room, a decimal has more places
than digits, or the decade has no first day.  Where none of them holds there is a value, whatever
is drawn.
-/

namespace SampleData

namespace Field

/--
Where the text of a field comes from: its own source, or the one that its kind and name suggest.
-/
def textSource? (field : Field) : Option TextSource :=
  match field.source, field.kind with
  | some source, _ => some source
  | none, .shortText => some (Synthesis.suggestedSource (Text.lower field.name.toList))
  | none, .email => some .email
  | none, _ => none

structure Fillable (field : Field) : Prop where
  scalar : field.kind.isLink = false
  known : field.kind ≠ .other
  /-- Only a field for text names a source. -/
  annotated : field.source ≠ none → field.kind.isText = true
  /-- An address has room for the shortest one. -/
  address : field.textSource? = some .email → ∀ limit ∈ field.maxLength, 6 ≤ limit
  places : field.kind = .decimal →
    field.decimalPlaces.getD Synthesis.defaultPlaces ≤ field.maxDigits.getD Synthesis.defaultDigits

end Field

namespace Date

theorem exists_decadeStart? {year : Int} (hlow : -9990 ≤ year) (hhigh : year ≤ 9999) :
    ∃ start, decadeStart? year = some start := by
  have hdecade : Calendar.firstYear ≤ year - year % 10 ∧ year - year % 10 ≤ Calendar.lastYear := by
    simp only [Calendar.firstYear, Calendar.lastYear]
    omega
  exact ⟨_, if_pos hdecade⟩

end Date

namespace Synthesis

def Succeeds {α : Type} (sampler : Sampler (Except Failure α)) : Prop :=
  ∀ draws, ∃ made, (sampler draws).1 = .ok made

def Fills (sampler : Sampler (Except Failure (Option Value))) : Prop :=
  ∀ draws, ∃ made, (sampler draws).1 = .ok (some made)

variable {α : Type} {form : α → Value}

theorem Succeeds.asValue {sampler : Sampler (Except Failure α)} (h : Succeeds sampler) :
    Fills (asValue form sampler) := by
  intro draws
  obtain ⟨made, hmade⟩ := h draws
  exact ⟨form made, by rw [asValue_fst, hmade, Except.map]⟩

theorem fills_always (sampler : Sampler α) : Fills (always form sampler) :=
  fun _ => ⟨_, rfl⟩

theorem succeeds_emailText {limit : Nat} (h : 6 ≤ limit) : Succeeds (emailText limit) := by
  intro draws
  obtain ⟨address, haddress⟩ := Fake.exists_emailWithin h draws
  exact ⟨address, emailText_of_some haddress⟩

theorem succeeds_cutText (limit : Option Nat) (sampler : Sampler String) :
    Succeeds (cutText limit sampler) := by
  intro draws
  cases limit with
  | none => exact ⟨_, rfl⟩
  | some limit => exact ⟨_, rfl⟩

theorem succeeds_sourceText {source : TextSource} {addressLimit : Nat}
    (h : source = .email → 6 ≤ addressLimit) (limit : Option Nat) :
    Succeeds (sourceText source addressLimit limit) := by
  cases source with
  | email => exact succeeds_emailText (h rfl)
  | phone | name | sentence | paragraph | url | languageCode => exact succeeds_cutText _ _

theorem room_of_address {maxLength : Option Nat} (h : ∀ limit ∈ maxLength, 6 ≤ limit) {default : Nat}
    (hdefault : 6 ≤ default) : 6 ≤ maxLength.getD default := by
  cases maxLength with
  | none => exact hdefault
  | some limit => exact h limit rfl

theorem succeeds_dateTimeThisDecade {now : Instant} (hlow : -9990 ≤ now.date.year)
    (hhigh : now.date.year ≤ 9999) : Succeeds (dateTimeThisDecade now) := by
  obtain ⟨start, hstart⟩ := Date.exists_decadeStart? hlow hhigh
  intro draws
  unfold dateTimeThisDecade
  rw [hstart]
  exact ⟨_, rfl⟩

theorem succeeds_dateThisDecade {now : Instant} (hlow : -9990 ≤ now.date.year)
    (hhigh : now.date.year ≤ 9999) : Succeeds (dateThisDecade now) := by
  obtain ⟨start, hstart⟩ := Date.exists_decadeStart? hlow hhigh
  intro draws
  unfold dateThisDecade
  rw [hstart]
  exact ⟨_, rfl⟩

theorem succeeds_pure (made : α) : Succeeds (pure (.ok made)) :=
  fun _ => ⟨made, rfl⟩

theorem succeeds_dateTime {now : Instant} (hlow : -9990 ≤ now.date.year)
    (hhigh : now.date.year ≤ 9999) (field : Field) : Succeeds (dateTime now field) := by
  unfold dateTime
  split
  · exact succeeds_pure now
  · exact succeeds_dateTimeThisDecade hlow hhigh

theorem succeeds_date {now : Instant} (hlow : -9990 ≤ now.date.year)
    (hhigh : now.date.year ≤ 9999) (field : Field) : Succeeds (date now field) := by
  unfold date
  split
  · exact succeeds_pure now.date
  · exact succeeds_dateThisDecade hlow hhigh

theorem succeeds_decimal {field : Field}
    (h : field.decimalPlaces.getD defaultPlaces ≤ field.maxDigits.getD defaultDigits) :
    Succeeds (decimal field) := by
  intro draws
  simp only [decimal, if_neg (Nat.not_lt.2 h), bind_apply, pure_apply]
  exact ⟨_, rfl⟩

/--
A field that a value can be made up for gets one, in any year whose decade the calendar has
whole.
-/
theorem fills_value {field : Field} (h : field.Fillable) {now : Instant}
    (hlow : -9990 ≤ now.date.year) (hhigh : now.date.year ≤ 9999) : Fills (value now field) := by
  unfold value
  cases hsource : field.source with
  | some source =>
      have htext : field.kind.isText = true := h.annotated (by simp [hsource])
      refine Succeeds.asValue ?_
      rw [namedSourceText, if_pos htext]
      refine succeeds_sourceText (fun hemail => ?_) _
      have haddress := h.address (by simp [Field.textSource?, hsource, hemail])
      exact room_of_address haddress (by decide)
  | none =>
      unfold byKind
      cases hkind : field.kind with
      | shortText =>
          refine Succeeds.asValue (succeeds_sourceText (fun hemail => ?_) _)
          have haddress := h.address (by simp [Field.textSource?, hsource, hkind, hemail])
          exact room_of_address haddress (by decide)
      | email =>
          have haddress := h.address (by simp [Field.textSource?, hsource, hkind])
          exact (succeeds_emailText (room_of_address haddress (by decide))).asValue
      | dateTime => exact (succeeds_dateTime hlow hhigh field).asValue
      | date => exact (succeeds_date hlow hhigh field).asValue
      | decimal => exact (succeeds_decimal (h.places hkind)).asValue
      | longText | boolean | integer | url => exact fills_always _
      | foreignKey | manyToMany =>
          have hscalar := h.scalar
          rw [hkind] at hscalar
          cases hscalar
      | other => exact absurd hkind h.known

end Synthesis

end SampleData
