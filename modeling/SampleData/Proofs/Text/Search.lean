import SampleData.Proofs.Text.Words
import SampleData.Text.Ascii
import SampleData.Text.Pieces

/-!
# Looking for a text

A text that lacks some character is found on one side of that character or on the other.  So
a text without blanks is found in a word or not at all.
-/

namespace SampleData

namespace Text

theorem isPrefixOf_append_cons {sought : List Char} {mark : Char} (hmark : mark ∉ sought)
    (front back : List Char) :
    sought.isPrefixOf (front ++ mark :: back) = sought.isPrefixOf front := by
  induction sought generalizing front with
  | nil => rw [List.isPrefixOf_nil_left, List.isPrefixOf_nil_left]
  | cons first others ih =>
      obtain ⟨hne, hothers⟩ := not_or.1 (mt List.mem_cons.2 hmark)
      cases front with
      | nil =>
          have hfirst : (first == mark) = false := beq_false_of_ne fun h => hne h.symm
          simp [List.isPrefixOf, hfirst]
      | cons c front => simp [List.isPrefixOf, ih hothers]

theorem contains_nil {sought : List Char} (hne : sought ≠ []) : contains sought [] = false := by
  simp [contains, hne]

/-- What lacks a mark is found before the mark or behind it. -/
theorem contains_append_cons {sought : List Char} (hne : sought ≠ []) {mark : Char}
    (hmark : mark ∉ sought) (front back : List Char) :
    contains sought (front ++ mark :: back) = (contains sought front || contains sought back) := by
  induction front with
  | nil =>
      have hstart := isPrefixOf_append_cons hmark [] back
      have hnil : sought.isPrefixOf [] = false := by
        cases sought with
        | nil => exact absurd rfl hne
        | cons => rfl
      rw [List.nil_append, hnil] at hstart
      simp [contains, hstart, hne]
  | cons c front ih =>
      have hstart := isPrefixOf_append_cons hmark (c :: front) back
      rw [List.cons_append] at hstart
      simp [contains, hstart, ih, Bool.or_assoc]

theorem joined_singleton (separator text : List Char) : joined separator [text] = text :=
  List.intercalate_singleton

theorem joined_cons_cons (mark : Char) (first second : List Char) (others : List (List Char)) :
    joined [mark] (first :: second :: others) = first ++ mark :: joined [mark] (second :: others) := by
  simp [joined, List.intercalate_cons_cons]

theorem contains_joined {sought : List Char} (hne : sought ≠ []) {mark : Char} (hmark : mark ∉ sought)
    (texts : List (List Char)) : contains sought (joined [mark] texts) = texts.any (contains sought) := by
  induction texts with
  | nil => exact contains_nil hne
  | cons first others ih =>
      cases others with
      | nil => simp [joined]
      | cons second others =>
          rw [joined_cons_cons, contains_append_cons hne hmark, ih, ← List.any_cons]

theorem contains_eq_false {sought text : List Char} {c : Char} (hsought : c ∈ sought)
    (htext : c ∉ text) : contains sought text = false := by
  induction text with
  | nil => exact contains_nil (List.ne_nil_of_mem hsought)
  | cons first others ih =>
      have hprefix : sought.isPrefixOf (first :: others) = false := by
        refine Bool.eq_false_iff.2 fun hprefix => ?_
        have hstart := List.isPrefixOf_iff_prefix.1 hprefix
        exact htext (hstart.subset hsought)
      rw [contains, hprefix, ih fun hmem => htext (List.mem_cons_of_mem _ hmem), Bool.false_or]

theorem contains_gap_append {sought : List Char} (hne : sought ≠ []) (hsolid : IsSolid sought)
    {gap : List Char} (hgap : IsGap gap) (text : List Char) :
    contains sought (gap ++ text) = contains sought text := by
  induction gap with
  | nil => rfl
  | cons c gap ih =>
      obtain ⟨hc, hgap⟩ := isGap_cons_iff.1 hgap
      have hmark : c ∉ sought := fun hmem => by simp [hsolid c hmem] at hc
      have hsplit := contains_append_cons hne hmark [] (gap ++ text)
      rwa [ih hgap, contains_nil hne, Bool.false_or] at hsplit

/-- What has no blank is found in a text when it is found in a word of it. -/
theorem contains_eq_any_words {sought : List Char} (hne : sought ≠ []) (hsolid : IsSolid sought)
    (text : List Char) : contains sought text = (words text).any (contains sought) := by
  generalize hwords : words text = list
  induction list generalizing text with
  | nil =>
      have hempty := contains_gap_append hne hsolid (isGap_of_words_eq_nil hwords) []
      rw [List.append_nil] at hempty
      rw [hempty, contains_nil hne, List.any_nil]
  | cons word others ih =>
      obtain ⟨gap, rest, rfl, hgap, -, -, hrest, hothers⟩ := exists_of_words_eq_cons hwords
      rw [contains_gap_append hne hsolid hgap, List.any_cons, ← ih rest hothers]
      rcases hrest with rfl | ⟨c, back, rfl, hc⟩
      · rw [List.append_nil, contains_nil hne, Bool.or_false]
      · have hmark : c ∉ sought := fun hmem => by simp [hsolid c hmem] at hc
        have hback := contains_gap_append hne hsolid (isGap_cons_iff.2 ⟨hc, isGap_nil⟩) back
        rw [contains_append_cons hne hmark, ← hback, List.singleton_append]

/-! ## Small letters -/

theorem exists_place_of_isUpperLetter {c : Char} (h : isUpperLetter c = true) :
    ∃ place < 26, c = Char.ofNat (65 + place) ∧ lowerChar c = Char.ofNat (97 + place) := by
  have hletter := h
  simp only [isUpperLetter, Bool.and_eq_true, decide_eq_true_eq] at hletter
  have hlow : 65 ≤ c.toNat := hletter.1
  have hhigh : c.toNat ≤ 90 := hletter.2
  refine ⟨c.toNat - 65, by omega, ?_, ?_⟩
  · rw [Nat.add_sub_cancel' hlow, Char.ofNat_toNat]
  · have hpoint : 97 + (c.toNat - 65) = c.toNat + 32 := by omega
    rw [lowerChar, if_pos h, hpoint]

/-- Small forms are letters, so a character that is no letter is the small form of itself alone. -/
theorem eq_of_lowerChar_eq {c other : Char} (hother : isLowerLetter other = false)
    (h : lowerChar c = other) : c = other := by
  by_cases hupper : isUpperLetter c = true
  · have hletters : ∀ place < 26, isLowerLetter (Char.ofNat (97 + place)) = true := by decide
    obtain ⟨place, hplace, -, hsmall⟩ := exists_place_of_isUpperLetter hupper
    rw [← h, hsmall, hletters place hplace] at hother
    cases hother
  · simpa [lowerChar, hupper] using h

theorem not_mem_lower {c : Char} (hc : isLowerLetter c = false) {text : List Char} (h : c ∉ text) :
    c ∉ lower text := by
  intro hmem
  obtain ⟨letter, hletter, hsmall⟩ := List.mem_map.1 hmem
  exact h (eq_of_lowerChar_eq hc hsmall ▸ hletter)

theorem lower_eq_self {text : List Char} (h : ∀ c ∈ text, isUpperLetter c = false) :
    lower text = text := by
  refine (List.map_congr_left fun c hc => ?_).trans (List.map_id text)
  simp [lowerChar, h c hc]

theorem not_isUpperLetter_lowerChar (c : Char) : isUpperLetter (lowerChar c) = false := by
  by_cases hupper : isUpperLetter c = true
  · have hletters : ∀ place < 26, isUpperLetter (Char.ofNat (97 + place)) = false := by decide
    obtain ⟨place, hplace, -, hsmall⟩ := exists_place_of_isUpperLetter hupper
    rw [hsmall, hletters place hplace]
  · simp [lowerChar, hupper]

theorem not_isUpperLetter_of_lower_eq {text : List Char} (h : lower text = text) :
    ∀ c ∈ text, isUpperLetter c = false := by
  intro c hc
  rw [← h] at hc
  obtain ⟨letter, -, rfl⟩ := List.mem_map.1 hc
  exact not_isUpperLetter_lowerChar letter

theorem isBlank_of_isUpperLetter {c : Char} (h : isUpperLetter c = true) : isBlank c = false := by
  have hletters : ∀ place < 26, isBlank (Char.ofNat (65 + place)) = false := by decide
  obtain ⟨place, hplace, rfl, -⟩ := exists_place_of_isUpperLetter h
  exact hletters place hplace

theorem isBlank_lowerChar (c : Char) : isBlank (lowerChar c) = isBlank c := by
  by_cases hupper : isUpperLetter c = true
  · have hletters : ∀ place < 26, isBlank (Char.ofNat (97 + place)) = false := by decide
    obtain ⟨place, hplace, -, hsmall⟩ := exists_place_of_isUpperLetter hupper
    rw [hsmall, hletters place hplace, isBlank_of_isUpperLetter hupper]
  · simp [lowerChar, hupper]

theorem lowerChar_blank {c : Char} (h : isBlank c = true) : lowerChar c = c := by
  by_cases hupper : isUpperLetter c = true
  · rw [isBlank_of_isUpperLetter hupper] at h
    cases h
  · simp [lowerChar, hupper]

theorem lower_gap {gap : List Char} (h : IsGap gap) : lower gap = gap := by
  induction gap with
  | nil => rfl
  | cons c gap ih =>
      obtain ⟨hc, hgap⟩ := isGap_cons_iff.1 h
      rw [lower, List.map_cons, lowerChar_blank hc, ← lower, ih hgap]

theorem IsSolid.lower {word : List Char} (h : IsSolid word) : IsSolid (lower word) := by
  intro c hc
  obtain ⟨letter, hletter, rfl⟩ := List.mem_map.1 hc
  rw [isBlank_lowerChar, h letter hletter]

theorem words_lower (text : List Char) : words (lower text) = (words text).map lower := by
  generalize hwords : words text = list
  induction list generalizing text with
  | nil =>
      have hgap := isGap_of_words_eq_nil hwords
      rw [lower_gap hgap, words_of_isGap hgap, List.map_nil]
  | cons word others ih =>
      obtain ⟨gap, rest, rfl, hgap, hword, hsolid, hrest, hothers⟩ := exists_of_words_eq_cons hwords
      have hne : lower word ≠ [] := fun h => hword (List.map_eq_nil_iff.1 h)
      have hback : AtBreak (lower rest) := by
        rcases hrest with rfl | ⟨c, back, rfl, hc⟩
        · exact Or.inl rfl
        · exact Or.inr ⟨lowerChar c, lower back, rfl, by rw [isBlank_lowerChar, hc]⟩
      rw [lower_append, lower_append, lower_gap hgap, words_of_first_word hgap hne hsolid.lower hback,
        ih rest hothers, List.map_cons]

end Text

end SampleData
