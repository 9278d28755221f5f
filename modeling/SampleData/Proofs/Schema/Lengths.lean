import Mathlib.Data.List.Infix
import SampleData.Proofs.Schema.Clauses
import SampleData.Proofs.Synthesis.Lengths

/-!
# Lengths that statements assert

A statement asserts a length where its text writes a call, a comparison and a numeral, with
letters of any case and any gaps between.  A field whose statement asserts one length alone is
given texts that keep to it.
-/

namespace SampleData

namespace Schema

open Text

/-! ## How assertions are written -/

def StartsWith (word : String) (more : List Char → Prop) (text : List Char) : Prop :=
  ∃ front rest, text = front ++ rest ∧ front.map foldedLetter = word.toList ∧ more rest

/-- A text that goes on in a given way behind the gap it starts with, if there is one. -/
def AfterGap (more : List Char → Prop) (text : List Char) : Prop :=
  ∃ gap rest, text = gap ++ rest ∧ IsGap gap ∧ more rest

def StartsWithDigits (digits text : List Char) : Prop :=
  ∃ rest, text = digits ++ rest ∧ digits ≠ [] ∧ (∀ c ∈ digits, isDecimalDigit c = true) ∧
    ∀ c ∈ rest.head?, isDecimalDigit c = false

def LengthAssertion.comparison (assertion : LengthAssertion) : String :=
  if assertion.strict then "<" else "<="

/-- A text that starts with an assertion of a length. -/
def WritesLength (assertion : LengthAssertion) : List Char → Prop :=
  StartsWith "string::len(" <| AfterGap <| StartsWith "$value" <| AfterGap <| StartsWith ")" <|
    AfterGap <| StartsWith assertion.comparison <| AfterGap <| StartsWithDigits assertion.digits

def Asserts (assertion : LengthAssertion) (statement : List Char) : Prop :=
  ∃ front text, statement = front ++ text ∧ WritesLength assertion text

variable {more : List Char → Prop} {text : List Char}

theorem startsWith_iff {word : String} :
    StartsWith word more text ↔ ∃ rest, afterFolded? word.toList text = some rest ∧ more rest := by
  constructor
  · rintro ⟨front, rest, htext, hfront, hmore⟩
    exact ⟨rest, afterFolded?_eq_some_iff.2 ⟨front, htext, hfront⟩, hmore⟩
  · rintro ⟨rest, hrest, hmore⟩
    obtain ⟨front, htext, hfront⟩ := afterFolded?_eq_some_iff.1 hrest
    exact ⟨front, rest, htext, hfront, hmore⟩

def StartsSolid (more : List Char → Prop) : Prop :=
  ∀ c rest, more (c :: rest) → isBlank c = false

theorem afterGap_iff (h : StartsSolid more) : AfterGap more text ↔ more (trimStart text) := by
  constructor
  · rintro ⟨gap, rest, rfl, hgap, hmore⟩
    rw [trimStart_gap_append hgap]
    cases rest with
    | nil => exact hmore
    | cons c rest =>
        have hc : ¬ isBlank c = true := by simp [h c rest hmore]
        rwa [trimStart, List.dropWhile_cons_of_neg hc]
  · intro hmore
    obtain ⟨gap, hgap, htext⟩ := exists_gap_append_trimStart text
    exact ⟨gap, trimStart text, htext.symm, hgap, hmore⟩

theorem startsWithDigits_iff {digits : List Char} :
    StartsWithDigits digits text ↔ text.takeWhile isDecimalDigit = digits ∧ digits ≠ [] := by
  constructor
  · rintro ⟨rest, rfl, hne, hdigits, hrest⟩
    refine ⟨?_, hne⟩
    rw [List.takeWhile_append_of_pos hdigits]
    cases rest with
    | nil => simp
    | cons c rest => simp [hrest c rfl]
  · rintro ⟨rfl, hne⟩
    refine ⟨text.dropWhile isDecimalDigit, List.takeWhile_append_dropWhile.symm, hne,
      List.all_eq_true.1 List.all_takeWhile, fun c hc => ?_⟩
    have hnot := List.head?_dropWhile_not isDecimalDigit text
    rwa [Option.mem_def.1 hc] at hnot

theorem isBlank_foldedLetter (c : Char) : isBlank (foldedLetter c) = isBlank c := by
  unfold foldedLetter
  split
  · rename_i hlong
    have hc : c = Char.ofNat 0x17F := by rw [← hlong, Char.ofNat_toNat]
    rw [hc]
    decide
  · exact isBlank_lowerChar c

theorem startsSolid_startsWith {word : String} (hne : word.toList ≠ []) (hsolid : IsSolid word.toList) :
    StartsSolid (StartsWith word more) := by
  rintro c rest ⟨front, back, hsplit, hfront, -⟩
  cases front with
  | nil => exact absurd hfront.symm hne
  | cons first front =>
      obtain ⟨rfl, -⟩ := List.cons.inj hsplit
      rw [← isBlank_foldedLetter]
      apply hsolid
      rw [← hfront]
      exact List.mem_cons_self

theorem isBlank_of_isDecimalDigit {c : Char} (h : isDecimalDigit c = true) : isBlank c = false := by
  cases hblank : isBlank c with
  | false => rfl
  | true =>
      rw [isDecimalDigit_blank hblank] at h
      cases h

theorem startsSolid_digits (digits : List Char) : StartsSolid (StartsWithDigits digits) := by
  rintro c rest ⟨back, hsplit, hne, hdigits, -⟩
  cases digits with
  | nil => exact absurd rfl hne
  | cons first digits =>
      obtain ⟨rfl, -⟩ := List.cons.inj hsplit
      exact isBlank_of_isDecimalDigit (hdigits c List.mem_cons_self)

theorem eq_of_map_foldedLetter {front word : List Char} (hword : ∀ c ∈ word, isLowerLetter c = false)
    (h : front.map foldedLetter = word) : front = word := by
  rw [← h]
  have hsame : ∀ c ∈ front, c = foldedLetter c := by
    intro c hc
    apply eq_of_foldedLetter_eq _ rfl
    apply hword
    rw [← h]
    exact List.mem_map_of_mem hc
  exact (List.map_id front).symm.trans (List.map_congr_left hsame)

theorem text_of_comparison? {strict : Bool} {rest : List Char}
    (h : comparison? text = some (strict, rest)) :
    text = (if strict then "<" else "<=").toList ++ rest := by
  unfold comparison? at h
  split at h <;> cases h <;> rfl

/-- A comparison is read as it is written when no sign of equality goes on behind it. -/
theorem startsWith_comparison_iff {assertion : LengthAssertion} (h : ∀ rest, ¬ more ('=' :: rest)) :
    StartsWith assertion.comparison more text ↔
      ∃ rest, comparison? text = some (assertion.strict, rest) ∧ more rest := by
  have hsigns : ∀ c ∈ assertion.comparison.toList, isLowerLetter c = false := by
    unfold LengthAssertion.comparison
    split <;> decide
  constructor
  · rintro ⟨front, rest, rfl, hfront, hmore⟩
    refine ⟨rest, ?_, hmore⟩
    rw [eq_of_map_foldedLetter hsigns hfront, LengthAssertion.comparison]
    cases assertion.strict with
    | true =>
        have hne : rest.head? ≠ some '=' := by
          intro heq
          obtain ⟨back, rfl⟩ := List.head?_eq_some_iff.1 heq
          exact h back hmore
        exact comparison?_less hne
    | false => rfl
  · rintro ⟨rest, hrest, hmore⟩
    have hfolded : assertion.comparison.toList.map foldedLetter = assertion.comparison.toList := by
      unfold LengthAssertion.comparison
      split <;> decide
    exact ⟨_, rest, text_of_comparison? hrest, hfolded, hmore⟩

/-- An assertion is read from a text exactly when the text writes it. -/
theorem assertionAt?_eq_some_iff {assertion : LengthAssertion} :
    assertionAt? text = some assertion ↔ WritesLength assertion text := by
  have hdigits := startsSolid_digits assertion.digits
  have hequal : ∀ rest, ¬ AfterGap (StartsWithDigits assertion.digits) ('=' :: rest) := by
    intro rest hmore
    have hmore : StartsWithDigits assertion.digits ('=' :: rest) := (afterGap_iff hdigits).1 hmore
    obtain ⟨htaken, hne⟩ := startsWithDigits_iff.1 hmore
    rw [List.takeWhile_cons_of_neg (by decide)] at htaken
    exact hne htaken.symm
  have hcomparison : StartsSolid (StartsWith assertion.comparison
      (AfterGap (StartsWithDigits assertion.digits))) := by
    unfold LengthAssertion.comparison
    split <;> exact startsSolid_startsWith (by decide) (by decide)
  have hclosing : ∀ {more}, StartsSolid (StartsWith ")" more) :=
    startsSolid_startsWith (by decide) (by decide)
  have hvalue : ∀ {more}, StartsSolid (StartsWith "$value" more) :=
    startsSolid_startsWith (by decide) (by decide)
  have hend : ∀ text, (∃ strict rest, comparison? text = some (strict, rest) ∧
      (if ((trimStart rest).takeWhile isDecimalDigit).isEmpty then none
        else some { strict, digits := (trimStart rest).takeWhile isDecimalDigit }) = some assertion) ↔
      ∃ rest, comparison? text = some (assertion.strict, rest) ∧
        (trimStart rest).takeWhile isDecimalDigit = assertion.digits ∧ assertion.digits ≠ [] := by
    intro text
    constructor
    · rintro ⟨strict, rest, hrest, hread⟩
      split at hread
      · cases hread
      · rename_i hne
        cases hread
        exact ⟨rest, hrest, rfl, fun hnil => hne (List.isEmpty_iff.2 hnil)⟩
    · rintro ⟨rest, hrest, htaken, hne⟩
      refine ⟨assertion.strict, rest, hrest, ?_⟩
      rw [htaken, if_neg (mt List.isEmpty_iff.1 hne)]
  -- each part of the grammar is turned into the step that reads it, from the front
  simp only [WritesLength, @startsWith_iff _ _ "string::len(", afterGap_iff hvalue,
    @startsWith_iff _ _ "$value", afterGap_iff hclosing, @startsWith_iff _ _ ")",
    afterGap_iff hcomparison, startsWith_comparison_iff hequal, afterGap_iff hdigits, startsWithDigits_iff]
  simp only [assertionAt?, Option.bind_eq_bind, Option.bind_eq_some_iff, Prod.exists, hend]

/-! ## The assertion that counts -/

theorem asserts_iff_mem {statement : List Char} {assertion : LengthAssertion} :
    Asserts assertion statement ↔ assertion ∈ statement.tails.filterMap assertionAt? := by
  simp only [List.mem_filterMap, List.mem_tails, assertionAt?_eq_some_iff]
  constructor
  · rintro ⟨front, text, rfl, hwritten⟩
    exact ⟨text, List.suffix_append front text, hwritten⟩
  · rintro ⟨text, ⟨front, rfl⟩, hwritten⟩
    exact ⟨front, text, rfl, hwritten⟩

theorem assertion?_eq_head? (statement : List Char) :
    assertion? statement = (statement.tails.filterMap assertionAt?).head? := by
  induction statement with
  | nil => rfl
  | cons c rest ih =>
      rw [assertion?, List.tails_cons, List.filterMap_cons]
      cases assertionAt? (c :: rest) with
      | none => exact ih
      | some assertion => rfl

theorem assertion?_of_only {statement : List Char} {assertion : LengthAssertion}
    (h : Asserts assertion statement) (honly : ∀ other, Asserts other statement → other = assertion) :
    assertion? statement = some assertion := by
  simp only [asserts_iff_mem] at h honly
  rw [assertion?_eq_head?]
  cases hread : statement.tails.filterMap assertionAt? with
  | nil =>
      rw [hread] at h
      cases h
  | cons first others =>
      rw [hread] at honly
      rw [List.head?_cons, honly first List.mem_cons_self]

/-! ## What assertions allow -/

def LengthAssertion.Allows (assertion : LengthAssertion) (length : Nat) : Prop :=
  if assertion.strict then length < numeralValue assertion.digits
  else length ≤ numeralValue assertion.digits

instance (assertion : LengthAssertion) (length : Nat) : Decidable (assertion.Allows length) :=
  inferInstanceAs (Decidable (if assertion.strict = true then length < numeralValue assertion.digits
    else length ≤ numeralValue assertion.digits))

theorem allows_of_le_bound? {assertion : LengthAssertion} {bound length : Nat}
    (hbound : assertion.bound? = some bound)
    (hpositive : assertion.strict = true → 1 ≤ numeralValue assertion.digits) (h : length ≤ bound) :
    assertion.Allows length := by
  obtain ⟨value, hvalue, rfl⟩ := Option.map_eq_some_iff.1 hbound
  have hnumeral : numeralValue assertion.digits = value := by
    unfold numeral? at hvalue
    split_ifs at hvalue
    exact Option.some.inj hvalue
  rw [LengthAssertion.Allows, hnumeral]
  rw [hnumeral] at hpositive
  split
  · rename_i hstrict
    rw [if_pos hstrict] at h
    have hpos := hpositive hstrict
    omega
  · rename_i hstrict
    rwa [if_neg hstrict] at h

/-! ## Fields that are given values -/

/--
The field of a statement with an assertion has its bound for a limit, and is of no kind of long
texts.
-/
theorem limit_of_ofStatement? {app table : String} {statement : List Char} {made : Field}
    (hmade : Definition.ofStatement? app statement = some (.field table made))
    {assertion : LengthAssertion} (hassertion : assertion? statement = some assertion) :
    ∃ bound, assertion.bound? = some bound ∧ made.maxLength = some bound ∧ made.kind ≠ .longText := by
  obtain ⟨_, _, _, -, -, -, hread⟩ := exists_of_ofStatement?_eq_field hmade
  obtain ⟨_, _, clauses, limit, -, -, -, -, hlimit, rfl⟩ := exists_of_fieldOf?_eq_some hread
  rw [hassertion, Option.mapM_some] at hlimit
  obtain ⟨bound, hbound, rfl⟩ := Option.map_eq_some_iff.1 hlimit
  refine ⟨bound, hbound, rfl, ?_⟩
  show assertedKind statement (reading (typeOfClauses clauses)).kind ≠ .longText
  rcases assertedKind_cases statement (reading (typeOfClauses clauses)).kind with heq | ⟨-, heq | heq⟩
  · rw [heq]
    exact kind_reading_ne_longText _
  · rw [heq]
    exact nofun
  · rw [heq]
    exact nofun

/--
A statement asserts one length and no other.  Whatever else it asserts, and whatever is drawn, a
text that is made up for its field has a length that the assertion allows, unless the field is of
an address on the web and names no source for its text.
-/
theorem asserted_length_honoured {app table : String} {statement : List Char} {made : Field}
    (hmade : Definition.ofStatement? app statement = some (.field table made))
    {assertion : LengthAssertion} (hasserts : Asserts assertion statement)
    (honly : ∀ other, Asserts other statement → other = assertion)
    (hpositive : assertion.strict = true → 1 ≤ numeralValue assertion.digits)
    (hurl : made.kind = .url → made.source ≠ none) (unique : Bool) {now : Instant} {draws : Draws}
    {text : String}
    (h : (Synthesis.value now { made with unique } draws).1 = .ok (some (.text text))) :
    assertion.Allows text.length := by
  obtain ⟨bound, hbound, hlimit, hlong⟩ := limit_of_ofStatement? hmade (assertion?_of_only hasserts honly)
  have hcut : made.source = none → made.kind.isUncut = false := by
    intro hnone
    cases hkind : made.kind with
    | longText => exact absurd hkind hlong
    | url => exact absurd hnone (hurl hkind)
    | _ => rfl
  have hlength : text.length ≤ bound :=
    @Synthesis.length_value_le { made with unique } bound hlimit hcut now draws text h
  exact allows_of_le_bound? hbound hpositive hlength

def titleStatement : List Char :=
  "DEFINE FIELD title ON post TYPE string ASSERT string::len( $value ) <= 10".toList

def titleField : Field :=
  { name := "title", kind := .shortText, maxLength := some 10 }

/-- A sentence is cut to the ten characters that its field may have. -/
theorem asserted_length_honoured_title :
    (Synthesis.value ⟨0, 0⟩ titleField { state := 1, texts := [(.sentence, "alpha beta gamma")] }).1 =
        .ok (some (.text "alpha beta")) ∧
      (⟨false, "10".toList⟩ : LengthAssertion).Allows "alpha beta".length := by
  have hmade : Definition.ofStatement? "blog" titleStatement = some (.field "post" titleField) := by
    decide +kernel
  have hasserts : Asserts ⟨false, "10".toList⟩ titleStatement := asserts_iff_mem.2 (by decide +kernel)
  have hall : ∀ other ∈ titleStatement.tails.filterMap assertionAt?, other = ⟨false, "10".toList⟩ := by
    decide +kernel
  have hvalue : (Synthesis.value ⟨0, 0⟩ titleField
      { state := 1, texts := [(.sentence, "alpha beta gamma")] }).1 =
        .ok (some (.text "alpha beta")) := by
    decide +kernel
  exact ⟨hvalue, asserted_length_honoured hmade hasserts
    (fun other hother => hall other (asserts_iff_mem.1 hother)) nofun nofun false hvalue⟩

def homeStatement : List Char :=
  "DEFINE FIELD home ON site TYPE string ASSERT string::is::url($value) AND string::len($value) <= 10".toList

/-- An address on the web is not cut: twelve characters more than its field may have. -/
theorem asserted_length_exceeded_home :
    ∃ made, Definition.ofStatement? "blog" homeStatement = some (.field "site" made) ∧
      Asserts ⟨false, "10".toList⟩ homeStatement ∧
      (∀ other, Asserts other homeStatement → other = ⟨false, "10".toList⟩) ∧
      (Synthesis.value ⟨0, 0⟩ made { state := 1, texts := [(.word, "alpha"), (.suffix, "com")] }).1 =
        .ok (some (.text "https://www.alpha.com/")) ∧
      ¬ (⟨false, "10".toList⟩ : LengthAssertion).Allows "https://www.alpha.com/".length := by
  simp only [asserts_iff_mem]
  refine ⟨{ name := "home", kind := .url, maxLength := some 10 }, ?_⟩
  decide +kernel

end Schema

end SampleData
