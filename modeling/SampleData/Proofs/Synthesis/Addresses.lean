import Mathlib.Data.List.GetD
import SampleData.Proofs.Synthesis.Fillable
import SampleData.Proofs.Text.Search

/-!
# Email addresses

What is made up as an email address has the form of one, whatever stands in front of the at sign of
the raw text, and keeps within its limit.  An address that fits is left as it is, and there is none
only where not even the shortest one has room.
-/

namespace SampleData

namespace Fake

open Draws

/-! ## The form of an address -/

def IsLetter (c : Char) : Prop :=
  'A' ≤ c ∧ c ≤ 'Z' ∨ 'a' ≤ c ∧ c ≤ 'z'

def IsDomainChar (c : Char) : Prop :=
  IsLetter c ∨ '0' ≤ c ∧ c ≤ '9' ∨ c = '.' ∨ c = '-'

def IsUserChar (c : Char) : Prop :=
  IsSmallOrDigit c ∨ c = '.' ∨ c = '_' ∨ c = '-'

instance : DecidablePred IsLetter := fun _ => inferInstanceAs (Decidable (_ ∨ _))

instance : DecidablePred IsDomainChar := fun _ => inferInstanceAs (Decidable (_ ∨ _))

/-- Something, a dot and an ending of two letters or more. -/
def IsDomain (domain : List Char) : Prop :=
  ∃ front ending, domain = front ++ '.' :: ending ∧ front ≠ [] ∧ (∀ c ∈ front, IsDomainChar c) ∧
    2 ≤ ending.length ∧ ∀ c ∈ ending, IsLetter c

def IsAddress (address : String) : Prop :=
  ∃ user domain, address.toList = user ++ '@' :: domain ∧ user ≠ [] ∧ (∀ c ∈ user, IsUserChar c) ∧
    IsDomain domain

/--
A text that an address is made of: if it has an at sign, a domain stands behind the first one.
-/
def IsRawAddress (raw : String) : Prop :=
  '@' ∉ raw.toList ∨ ∃ user domain, raw.toList = user ++ '@' :: domain ∧ '@' ∉ user ∧ IsDomain domain

end Fake

namespace Draws

/-- The texts that wait for addresses are such that addresses can be made of them. -/
def HasRawAddresses (draws : Draws) : Prop :=
  ∀ text, (TextKind.email, text) ∈ draws.texts → Fake.IsRawAddress text

end Draws

namespace Fake

open Draws

/-! ## Raw texts -/

theorem mem_pick {texts : List String} (h : texts ≠ []) (draws : Draws) :
    (pick texts draws).1 ∈ texts := by
  have hlt := below_lt (List.length_pos_iff.2 h) draws
  change texts.getD (below texts.length draws).1 "" ∈ texts
  rw [List.getD_eq_getElem _ _ hlt]
  exact List.getElem_mem hlt

theorem isDomain_of_split {front ending : List Char} (hfront : front ≠ [])
    (hinner : ∀ c ∈ front, IsDomainChar c) (hlength : 2 ≤ ending.length)
    (hending : ∀ c ∈ ending, IsLetter c) : IsDomain (front ++ '.' :: ending) :=
  ⟨front, ending, rfl, hfront, hinner, hlength, hending⟩

theorem isDomain_example {ending : List Char} (hlength : 2 ≤ ending.length)
    (hending : ∀ c ∈ ending, IsLetter c) : IsDomain ("example.".toList ++ ending) :=
  have hinner : ∀ c ∈ "example".toList, IsDomainChar c := by decide
  isDomain_of_split (List.cons_ne_nil _ _) hinner hlength hending

theorem isDomain_hosts : ∀ host ∈ hostList, IsDomain host.toList := by
  rw [hostList, List.forall_mem_cons, List.forall_mem_cons, List.forall_mem_singleton]
  exact ⟨isDomain_example (by decide) (by decide), isDomain_example (by decide) (by decide),
    isDomain_example (by decide) (by decide)⟩

theorem isDomain_shortDomains : ∀ domain ∈ shortDomains, IsDomain domain.toList := by
  have hinner : ∀ c ∈ ['x'], IsDomainChar c := by decide
  rw [shortDomains, List.forall_mem_cons, List.forall_mem_singleton]
  exact ⟨isDomain_example (by decide) (by decide),
    isDomain_of_split (List.cons_ne_nil _ _) hinner (by decide) (by decide)⟩

theorem isRawAddress_rawEmail {draws : Draws} (h : draws.HasRawAddresses) :
    IsRawAddress (rawEmail draws).1 := by
  rcases textOr_cases .email _ draws with hwaiting | hmade
  · exact h _ hwaiting
  · have hwords : ∀ word ∈ wordList, '@' ∉ word.toList := by decide
    have huser : (pick wordList draws).1 ∈ wordList := mem_pick (List.cons_ne_nil _ _) draws
    have hhost : (pick hostList (pick wordList draws).2).1 ∈ hostList :=
      mem_pick (List.cons_ne_nil _ _) _
    rw [rawEmail, hmade]
    simp only [bind_apply, pure_apply]
    refine .inr ⟨_, _, ?_, hwords _ huser, isDomain_hosts _ hhost⟩
    rw [String.toList_append, String.toList_append, List.append_assoc]
    rfl

/--
Behind the first at sign of a raw text there is a domain, and where there is no at sign one is
added.
-/
theorem isDomain_addressParts {raw : String} (h : IsRawAddress raw) :
    IsDomain (addressParts raw.toList).2 := by
  rcases h with hnone | ⟨user, domain, hraw, huser, hdomain⟩
  · rw [addressParts, Text.cutAt_eq_none hnone]
    exact isDomain_example (by decide) (by decide)
  · rw [addressParts, hraw, Text.cutAt_append huser]
    exact hdomain

/-! ## In front of the at sign -/

theorem isUserChar_of_isLocalChar {c : Char} (hupper : Text.isUpperLetter c = false)
    (h : isLocalChar c = true) : IsUserChar c := by
  simp only [isLocalChar, isJoint, hupper, Text.isLowerLetter, Text.isPlainDigit, Bool.or_eq_true,
    Bool.and_eq_true, decide_eq_true_eq, beq_iff_eq, Bool.false_eq_true, or_false] at h
  unfold IsUserChar IsSmallOrDigit IsSmall
  tauto

theorem isUserChar_plainLocal (raw : List Char) : ∀ c ∈ plainLocal raw, IsUserChar c := by
  intro c hc
  have hkept := (Text.trimWhile_sublist isJoint _).subset hc
  obtain ⟨hlower, hlocal⟩ := List.mem_filter.1 hkept
  obtain ⟨letter, -, rfl⟩ := List.mem_map.1 hlower
  exact isUserChar_of_isLocalChar (Text.not_isUpperLetter_lowerChar letter) hlocal

theorem isUserChar_letters (count : Nat) (draws : Draws) :
    ∀ c ∈ (letters count draws).1, IsUserChar c :=
  fun c hc => .inl (.inl (forall_mem_repeated isSmall_letter count draws c hc))

theorem letters_ne_nil {count : Nat} (h : 0 < count) (draws : Draws) : (letters count draws).1 ≠ [] := by
  refine List.ne_nil_of_length_pos ?_
  rwa [length_letters]

/-! ## Addresses -/

theorem isAddress_of_parts {user domain : List Char} (hne : user ≠ []) (huser : ∀ c ∈ user, IsUserChar c)
    (hdomain : IsDomain domain) : IsAddress (String.ofList (user ++ '@' :: domain)) :=
  ⟨user, domain, String.toList_ofList, hne, huser, hdomain⟩

theorem isAddress_email {draws : Draws} (h : draws.HasRawAddresses) : IsAddress (email draws).1 := by
  have hdomain := isDomain_addressParts (isRawAddress_rawEmail h)
  simp only [email, bind_apply]
  generalize rawEmail draws = raw at hdomain
  -- Letters are drawn only where nothing plain remains of what stands in front of the at sign.
  split
  · have hne : (letters 8 raw.2).1 ≠ [] := letters_ne_nil (by decide) raw.2
    rw [bind_apply, pure_apply]
    exact isAddress_of_parts hne (isUserChar_letters 8 raw.2) hdomain
  · rename_i hplain
    have hne : plainLocal (addressParts raw.1.toList).1 ≠ [] := mt List.isEmpty_iff.2 hplain
    exact isAddress_of_parts hne (isUserChar_plainLocal _) hdomain

theorem isAddress_shortEmail {limit : Nat} {domains : List String}
    (hdomains : ∀ domain ∈ domains, IsDomain domain.toList) {draws : Draws} {address : String}
    (h : (shortEmail limit domains draws).1 = some address) : IsAddress address := by
  obtain ⟨domain, hmem, count, hcount, -, rfl⟩ := exists_of_shortEmail_eq_some h
  refine ⟨_, _, ?_, letters_ne_nil hcount draws, isUserChar_letters count draws, hdomains domain hmem⟩
  rw [String.toList_append, String.toList_append, String.toList_ofList, List.append_assoc]
  rfl

theorem isAddress_emailWithin {draws : Draws} (h : draws.HasRawAddresses) {limit : Nat} {address : String}
    (haddress : (emailWithin limit draws).1 = some address) : IsAddress address := by
  by_cases hfits : (email draws).1.length ≤ limit
  · rw [emailWithin_of_fits hfits, Option.some.injEq] at haddress
    exact haddress ▸ isAddress_email h
  · rw [emailWithin_of_not_fits (Nat.not_le.1 hfits)] at haddress
    exact isAddress_shortEmail isDomain_shortDomains haddress

end Fake

/--
The fields that are given an address of at most so many characters: a field for addresses, a short
text whose name says so, and any text that is to come from the source of addresses.
-/
inductive Field.TakesAddress (field : Field) : Nat → Prop
  | byKind (hsource : field.source = none) (hkind : field.kind = .email) :
      field.TakesAddress (field.maxLength.getD Synthesis.emailLimit)
  | byName (hsource : field.source = none) (hkind : field.kind = .shortText)
      (hname : "email".toList <:+ Text.lower field.name.toList) :
      field.TakesAddress (field.maxLength.getD Synthesis.shortTextLimit)
  | bySource (hsource : field.source = some .email) (hkind : field.kind.isText = true) :
      field.TakesAddress (field.maxLength.getD Synthesis.emailLimit)

namespace Synthesis

theorem value_of_takesAddress {field : Field} {limit : Nat} (h : field.TakesAddress limit) (now : Instant) :
    value now field = asValue .text (emailText limit) := by
  cases h with
  | byKind hsource hkind => rw [value, hsource, byKind, hkind]
  | byName hsource hkind hname =>
      have hsuffix := List.isSuffixOf_iff_suffix.2 hname
      rw [value, hsource, byKind, hkind, shortText, suggestedSource, if_pos hsuffix, sourceText]
  | bySource hsource hkind =>
      rw [value, hsource]
      dsimp only
      rw [namedSourceText, if_pos hkind, sourceText]

/-- Only a limit of the field's own can be that short. -/
theorem maxLength_of_takesAddress {field : Field} {limit : Nat} (h : field.TakesAddress limit)
    (hshort : limit ≤ 5) : field.maxLength = some limit := by
  cases hmax : field.maxLength with
  | some own => cases h <;> rw [hmax, Option.getD_some]
  | none =>
      have hdefaults : 5 < emailLimit ∧ 5 < shortTextLimit := by decide
      cases h <;> (rw [hmax, Option.getD_none] at hshort; omega)

theorem value_address {draws : Draws} (h : draws.HasRawAddresses) {field : Field} {limit : Nat}
    (hfield : field.TakesAddress limit) (now : Instant) :
    (∃ text, (value now field draws).1 = .ok (some (.text text)) ∧ Fake.IsAddress text ∧
      text.length ≤ limit) ∨
    limit ≤ 5 ∧ field.maxLength = some limit ∧
      (value now field draws).1 = .error (.emailTooShort limit) := by
  rw [value_of_takesAddress hfield now, asValue_fst]
  cases haddress : (Fake.emailWithin limit draws).1 with
  | some address =>
      refine .inl ⟨address, ?_, Fake.isAddress_emailWithin h haddress,
        Fake.length_emailWithin_le haddress⟩
      rw [emailText_of_some haddress, Except.map]
  | none =>
      have hshort := (Fake.emailWithin_eq_none_iff.1 haddress).2
      refine .inr ⟨hshort, maxLength_of_takesAddress hfield hshort, ?_⟩
      rw [emailText_of_none haddress, Except.map]

/--
As long as addresses can be made of the raw texts, whatever the limit: an address that is made up
has the form of one and keeps within the limit.  The one made up first is left as it is if it fits,
and there is none at all exactly where it does not fit and the limit is five or less.  So the fields
that take an address get one, or fail for a limit of their own of five or less.
-/
theorem address_within {draws : Draws} (h : draws.HasRawAddresses) (limit : Nat) :
    (∀ address, (Fake.emailWithin limit draws).1 = some address →
        Fake.IsAddress address ∧ address.length ≤ limit) ∧
      ((Fake.email draws).1.length ≤ limit →
        Fake.emailWithin limit draws = (some (Fake.email draws).1, (Fake.email draws).2)) ∧
      ((Fake.emailWithin limit draws).1 = none ↔ limit < (Fake.email draws).1.length ∧ limit ≤ 5) ∧
      (6 ≤ limit → ∃ address, (Fake.emailWithin limit draws).1 = some address) ∧
      ∀ now field, field.TakesAddress limit →
        (∃ text, (value now field draws).1 = .ok (some (.text text)) ∧ Fake.IsAddress text ∧
          text.length ≤ limit) ∨
        limit ≤ 5 ∧ field.maxLength = some limit ∧
          (value now field draws).1 = .error (.emailTooShort limit) :=
  ⟨fun _ haddress => ⟨Fake.isAddress_emailWithin h haddress, Fake.length_emailWithin_le haddress⟩,
    Fake.emailWithin_of_fits, Fake.emailWithin_eq_none_iff,
    fun hroom => Fake.exists_emailWithin hroom draws, fun now _ hfield => value_address h hfield now⟩

/--
The plain form of a raw address has 25 characters: a field for 25 takes it, and of 5 there is
none.
-/
theorem address_within_zoe :
    let draws : Draws := { state := 0, texts := [(.email, "Zoë.O'Hara@Mail.Example.org")] }
    let field : Field := { name := "work_Email", kind := .shortText, maxLength := some 25 }
    draws.HasRawAddresses ∧ field.TakesAddress 25 ∧
      (value ⟨0, 0⟩ field draws).1 = .ok (some (.text "zo.ohara@Mail.Example.org")) ∧
      Fake.IsAddress "zo.ohara@Mail.Example.org" ∧ (Fake.emailWithin 5 draws).1 = none := by
  intro draws field
  have hdomain : Fake.IsDomain "Mail.Example.org".toList :=
    ⟨"Mail.Example".toList, "org".toList, by decide, by decide, by decide, by decide, by decide⟩
  have hraw : draws.HasRawAddresses := by
    intro text htext
    obtain rfl : text = "Zoë.O'Hara@Mail.Example.org" := by simpa [draws] using htext
    exact .inr ⟨"Zoë.O'Hara".toList, _, by decide, by decide, hdomain⟩
  have hname : "email".toList.isSuffixOf (Text.lower "work_Email".toList) = true := by decide
  have htakes : field.TakesAddress 25 := .byName rfl rfl (List.isSuffixOf_iff_suffix.1 hname)
  have hmade : (Fake.emailWithin 25 draws).1 = some "zo.ohara@Mail.Example.org" := by decide
  refine ⟨hraw, htakes, ?_, ((address_within hraw 25).1 _ hmade).1, ?_⟩
  · rw [value_of_takesAddress htakes, asValue_fst, emailText_of_some hmade, Except.map]
  · exact (address_within hraw 5).2.2.1.2 (by decide)

end Synthesis

end SampleData
