import SampleData.Proofs.Fake
import SampleData.Proofs.Synthesis
import SampleData.Proofs.Text.Words

/-!
# Lengths of values

A text that is made up for a field with a limit keeps within it, but for two kinds of text that
are made up without regard to any limit when the field names no source.
-/

namespace SampleData

def FieldKind.isUncut : FieldKind → Bool
  | longText | url => true
  | _ => false

namespace Synthesis

theorem length_cut_le (limit : Nat) (text : String) : (cut limit text).length ≤ limit := by
  rw [cut, String.length_ofList]
  exact Nat.le_trans (Text.dropEndWhile_sublist _ _).length_le (List.length_take_le _ _)

theorem length_emailText_le {limit : Nat} {draws : Draws} {text : String}
    (h : (emailText limit draws).1 = .ok text) : text.length ≤ limit := by
  cases haddress : (Fake.emailWithin limit draws).1 with
  | none =>
      rw [emailText_of_none haddress] at h
      cases h
  | some address =>
      rw [emailText_of_some haddress] at h
      cases h
      exact Fake.length_emailWithin_le haddress

theorem length_cutText_le {limit : Nat} {sampler : Sampler String} {draws : Draws} {text : String}
    (h : (cutText (some limit) sampler draws).1 = .ok text) : text.length ≤ limit := by
  cases h
  exact length_cut_le limit _

theorem length_sourceText_le {source : TextSource} {limit : Nat} {draws : Draws} {text : String}
    (h : (sourceText source limit (some limit) draws).1 = .ok text) : text.length ≤ limit := by
  cases source with
  | email => exact length_emailText_le h
  | phone | name | sentence | paragraph | url | languageCode => exact length_cutText_le h

theorem length_namedSourceText_le {field : Field} {limit : Nat} (hlimit : field.maxLength = some limit)
    {source : TextSource} {draws : Draws} {text : String}
    (h : (namedSourceText field source draws).1 = .ok text) : text.length ≤ limit := by
  rw [namedSourceText, hlimit] at h
  split at h
  · exact length_sourceText_le h
  · cases h

theorem length_shortText_le {field : Field} {limit : Nat} (hlimit : field.maxLength = some limit)
    {draws : Draws} {text : String} (h : (shortText field draws).1 = .ok text) : text.length ≤ limit := by
  rw [shortText, hlimit] at h
  exact length_sourceText_le h

/-- A text that is made up for a field keeps within the field's limit, unless nothing cuts it. -/
theorem length_value_le {field : Field} {limit : Nat} (hlimit : field.maxLength = some limit)
    (hcut : field.source = none → field.kind.isUncut = false) {now : Instant} {draws : Draws}
    {text : String} (h : (value now field draws).1 = .ok (some (.text text))) : text.length ≤ limit := by
  unfold value at h
  cases hsource : field.source with
  | some source =>
      rw [hsource] at h
      obtain ⟨content, hcontent, htext⟩ := asValue_eq_ok h
      cases htext
      exact length_namedSourceText_le hlimit hcontent
  | none =>
      rw [hsource] at h
      have hcut := hcut hsource
      dsimp only [byKind] at h
      cases hkind : field.kind with
      | shortText =>
          rw [hkind] at h
          obtain ⟨content, hcontent, htext⟩ := asValue_eq_ok h
          cases htext
          exact length_shortText_le hlimit hcontent
      | email =>
          rw [hkind, hlimit] at h
          obtain ⟨content, hcontent, htext⟩ := asValue_eq_ok h
          cases htext
          exact length_emailText_le hcontent
      | longText | url =>
          rw [hkind] at hcut
          cases hcut
      | date | dateTime | decimal =>
          rw [hkind] at h
          obtain ⟨content, -, htext⟩ := asValue_eq_ok h
          cases htext
      | boolean | integer =>
          rw [hkind] at h
          cases always_eq_ok h
      | foreignKey | manyToMany | other =>
          rw [hkind] at h
          cases h

/-- A field whose text nothing cuts is given the same text whatever its limit. -/
theorem value_uncut {field : Field} (hsource : field.source = none) (hkind : field.kind.isUncut = true)
    (limit : Option Nat) (now : Instant) : value now { field with maxLength := limit } = value now field := by
  unfold value byKind
  dsimp only
  rw [hsource]
  cases hcase : field.kind with
  | longText | url => rfl
  | _ => simp [hcase, FieldKind.isUncut] at hkind

end Synthesis

end SampleData
