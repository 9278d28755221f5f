import SampleData.Fake
import SampleData.Proofs.Draws

/-!
# The shape of made-up texts

A record key is a small letter with small letters and digits behind it, whatever is drawn.  An
address that must be short is as short as it must be.
-/

namespace SampleData

namespace Fake

open Draws

/-! ## Keys -/

def IsSmall (c : Char) : Prop :=
  'a' ≤ c ∧ c ≤ 'z'

def IsSmallOrDigit (c : Char) : Prop :=
  IsSmall c ∨ '0' ≤ c ∧ c ≤ '9'

instance : DecidablePred IsSmall := fun _ => inferInstanceAs (Decidable (_ ∧ _))

instance : DecidablePred IsSmallOrDigit := fun _ => inferInstanceAs (Decidable (_ ∨ _))

/-- A small letter and nineteen small letters and digits. -/
def IsKey (key : String) : Prop :=
  ∃ first rest, key.toList = first :: rest ∧ IsSmall first ∧ rest.length = 19 ∧
    ∀ c ∈ rest, IsSmallOrDigit c

theorem IsKey.length_eq {key : String} (h : IsKey key) : key.length = 20 := by
  obtain ⟨first, rest, hkey, -, hrest, -⟩ := h
  rw [← String.length_toList, hkey, List.length_cons, hrest]

theorem isSmall_letter (draws : Draws) : IsSmall (letter draws).1 := by
  have hall : ∀ index < 26, IsSmall (Char.ofNat ('a'.toNat + index)) := by decide
  change IsSmall (Char.ofNat ('a'.toNat + (below 26 draws).1))
  exact hall _ (below_lt (by decide) draws)

theorem isSmallOrDigit_lower_alphanumeric (draws : Draws) :
    IsSmallOrDigit (Text.lowerChar (alphanumeric draws).1) := by
  have hall : ∀ index < 62, IsSmallOrDigit (Text.lowerChar (alphanumericOf index)) := by decide
  change IsSmallOrDigit (Text.lowerChar (alphanumericOf (below 62 draws).1))
  exact hall _ (below_lt (by decide) draws)

theorem isKey_recordKey (draws : Draws) : IsKey (recordKey draws).1 := by
  simp only [recordKey, bind_apply, pure_apply]
  have hfirst := isSmall_letter draws
  generalize letter draws = first at hfirst ⊢
  have hlength := length_repeated_apply keyRest alphanumeric first.2
  have hdrawn : ∀ c ∈ (repeated keyRest alphanumeric first.2).1,
      IsSmallOrDigit (Text.lowerChar c) :=
    forall_mem_repeated isSmallOrDigit_lower_alphanumeric keyRest first.2
  generalize repeated keyRest alphanumeric first.2 = rest at hlength hdrawn ⊢
  refine ⟨first.1, Text.lower rest.1, String.toList_ofList, hfirst, ?_, ?_⟩
  · rw [Text.length_lower, hlength, keyRest]
  · intro c hc
    obtain ⟨raw, hraw, rfl⟩ := List.mem_map.1 hc
    exact hdrawn raw hraw

/-! ## Addresses -/

theorem length_letters (count : Nat) (draws : Draws) : (letters count draws).1.length = count :=
  length_repeated_apply count letter draws

theorem exists_of_shortEmail_eq_some {limit : Nat} {domains : List String} {draws : Draws}
    {address : String} (h : (shortEmail limit domains draws).1 = some address) :
    ∃ domain ∈ domains, ∃ count, 0 < count ∧ count + 1 + domain.length ≤ limit ∧
      address = String.ofList (letters count draws).1 ++ "@" ++ domain := by
  induction domains with
  | nil => cases h
  | cons domain others ih =>
      rw [shortEmail] at h
      by_cases hroom : 1 ≤ limit - (domain.length + 1)
      · simp only [hroom, if_true, bind_apply, pure_apply, Option.some.injEq] at h
        exact ⟨domain, List.mem_cons_self, _, by omega, by omega, h.symm⟩
      · simp only [hroom, if_false] at h
        obtain ⟨other, hmem, hparts⟩ := ih h
        exact ⟨other, List.mem_cons_of_mem _ hmem, hparts⟩

theorem length_shortEmail_le {limit : Nat} {domains : List String} {draws : Draws} {address : String}
    (h : (shortEmail limit domains draws).1 = some address) : address.length ≤ limit := by
  obtain ⟨domain, -, count, -, hroom, rfl⟩ := exists_of_shortEmail_eq_some h
  have hat : "@".length = 1 := by decide
  rw [String.length_append, String.length_append, String.length_ofList, length_letters, hat]
  exact hroom

theorem emailWithin_of_fits {limit : Nat} {draws : Draws} (h : (email draws).1.length ≤ limit) :
    emailWithin limit draws = (some (email draws).1, (email draws).2) := by
  rw [emailWithin, bind_apply, if_pos h, pure_apply]

theorem emailWithin_of_not_fits {limit : Nat} {draws : Draws} (h : limit < (email draws).1.length) :
    emailWithin limit draws = shortEmail limit shortDomains (email draws).2 := by
  rw [emailWithin, bind_apply, if_neg (Nat.not_le.2 h)]

theorem length_emailWithin_le {limit : Nat} {draws : Draws} {address : String}
    (h : (emailWithin limit draws).1 = some address) : address.length ≤ limit := by
  by_cases hfits : (email draws).1.length ≤ limit
  · rw [emailWithin_of_fits hfits, Option.some.injEq] at h
    exact h ▸ hfits
  · rw [emailWithin_of_not_fits (Nat.not_le.1 hfits)] at h
    exact length_shortEmail_le h

/-- There is no short address only if no domain leaves room for a letter and the at sign. -/
theorem shortEmail_eq_none_iff {limit : Nat} {domains : List String} {draws : Draws} :
    (shortEmail limit domains draws).1 = none ↔ ∀ domain ∈ domains, limit ≤ domain.length + 1 := by
  induction domains with
  | nil => exact iff_of_true rfl nofun
  | cons domain others ih =>
      rw [shortEmail, List.forall_mem_cons]
      by_cases hroom : 1 ≤ limit - (domain.length + 1)
      · have hlong : ¬ limit ≤ domain.length + 1 := by omega
        simp [hroom, hlong]
      · have hshort : limit ≤ domain.length + 1 := by omega
        simp only [hroom, if_false, ih, hshort, true_and]

theorem emailWithin_eq_none_iff {limit : Nat} {draws : Draws} :
    (emailWithin limit draws).1 = none ↔ limit < (email draws).1.length ∧ limit ≤ 5 := by
  by_cases hfits : (email draws).1.length ≤ limit
  · simp [emailWithin_of_fits hfits, Nat.not_lt.2 hfits]
  · have hlong := Nat.not_le.1 hfits
    have hrooms : (∀ domain ∈ shortDomains, limit ≤ domain.length + 1) ↔ limit ≤ 5 := by
      have hlengths : "example.com".length = 11 ∧ "x.io".length = 4 := by decide
      rw [shortDomains, List.forall_mem_cons, List.forall_mem_singleton, hlengths.1, hlengths.2]
      omega
    rw [emailWithin_of_not_fits hlong, shortEmail_eq_none_iff, hrooms]
    exact (and_iff_right hlong).symm

theorem exists_emailWithin {limit : Nat} (h : 6 ≤ limit) (draws : Draws) :
    ∃ address, (emailWithin limit draws).1 = some address := by
  refine Option.ne_none_iff_exists'.1 fun hnone => ?_
  have hshort := (emailWithin_eq_none_iff.1 hnone).2
  omega

end Fake

end SampleData
