import Mathlib.Algebra.Order.Field.Rat
import Mathlib.Data.Nat.Cast.Order.Field
import Mathlib.Tactic.Positivity
import SampleData.Proofs.Synthesis
import SampleData.Proofs.Text.Numerals
import SampleData.Text.Pieces

/-!
# Decimals

A decimal that is made up keeps to the digits and places of its field: as many places as are asked
for, no needless zero in front, and no more digits before the point than are left.  All the numbers
that it is made of stay within 128 bits.
-/

namespace SampleData

namespace Text

/-! ## Decimals in writing -/

/--
The text of a decimal with so many places: a numeral, and behind a point its places if it has
any.
-/
inductive IsDecimal : Nat → List Char → Prop
  | whole {whole : List Char} (h : IsNumeral whole) : IsDecimal 0 whole
  | pointed {whole places : List Char} (h : IsNumeral whole) (hne : places ≠ [])
      (hplain : ∀ c ∈ places, isPlainDigit c = true) :
      IsDecimal places.length (whole ++ '.' :: places)

/-- The number that a decimal writes: its whole part, and the parts of one behind its point. -/
def decimalValue (text : List Char) : ℚ :=
  match cutAt '.' text with
  | some (whole, places) => numeralValue whole + numeralValue places / 10 ^ places.length
  | none => numeralValue text

theorem point_not_mem_of_plain {digits : List Char} (h : ∀ c ∈ digits, isPlainDigit c = true) :
    '.' ∉ digits := by
  intro hpoint
  have hplain : isPlainDigit '.' = false := by decide
  rw [h '.' hpoint] at hplain
  cases hplain

theorem decimalValue_whole {whole : List Char} (h : ∀ c ∈ whole, isPlainDigit c = true) :
    decimalValue whole = numeralValue whole := by
  rw [decimalValue, cutAt_eq_none (point_not_mem_of_plain h)]

theorem decimalValue_pointed {whole : List Char} (h : ∀ c ∈ whole, isPlainDigit c = true)
    (places : List Char) :
    decimalValue (whole ++ '.' :: places) =
      numeralValue whole + numeralValue places / 10 ^ places.length := by
  rw [decimalValue, cutAt_append (point_not_mem_of_plain h)]

end Text

namespace Fake

open Draws Text

/-! ## The text of two parts -/

theorem toList_decimalText (whole fraction places : Nat) :
    (decimalText whole fraction places).toList =
      if places = 0 then Nat.toDigits 10 whole
      else Nat.toDigits 10 whole ++ '.' :: digitsOfWidth places fraction := by
  have hwhole : (toString whole).toList = Nat.toDigits 10 whole := Nat.toList_repr
  unfold decimalText
  split
  · exact hwhole
  · have hpoint : ".".toList = ['.'] := by decide
    simp only [String.toList_append, hwhole, hpoint, String.toList_ofList, List.append_assoc,
      List.singleton_append]

theorem isDecimal_decimalText (whole fraction places : Nat) :
    IsDecimal places (decimalText whole fraction places).toList := by
  rw [toList_decimalText]
  split
  · subst places
    exact .whole (isNumeral_toDigits whole)
  · rename_i hplaces
    have hlength := length_digitsOfWidth places fraction
    have hne : digitsOfWidth places fraction ≠ [] := by
      refine List.ne_nil_of_length_pos ?_
      omega
    have hpointed := IsDecimal.pointed (isNumeral_toDigits whole) hne
      fun _ => isPlainDigit_of_mem_digitsOfWidth
    rwa [hlength] at hpointed

theorem decimalValue_decimalText {fraction places : Nat} (h : fraction < 10 ^ places) (whole : Nat) :
    decimalValue (decimalText whole fraction places).toList = whole + fraction / 10 ^ places := by
  have hplain : ∀ c ∈ Nat.toDigits 10 whole, isPlainDigit c = true :=
    fun _ => isPlainDigit_of_mem_toDigits
  rw [toList_decimalText]
  split
  · subst places
    obtain rfl : fraction = 0 := Nat.lt_one_iff.1 h
    rw [decimalValue_whole hplain, numeralValue_toDigits]
    simp
  · rw [decimalValue_pointed hplain, numeralValue_toDigits, numeralValue_digitsOfWidth h,
      length_digitsOfWidth]

/-! ## The parts that are drawn -/

theorem nonZero_lt {left right whole fraction : Nat} (hwhole : whole < 10 ^ left)
    (hfraction : fraction < 10 ^ right) :
    (nonZero left right whole fraction).1 < 10 ^ left ∧
      (nonZero left right whole fraction).2 < 10 ^ right := by
  have hten : ∀ {exponent : Nat}, 0 < exponent → 1 < 10 ^ exponent :=
    fun hpos => Nat.one_lt_pow (Nat.ne_of_gt hpos) (by decide)
  unfold nonZero
  split
  · split
    · exact ⟨hwhole, hten ‹_›⟩
    · split
      · exact ⟨hten ‹_›, hfraction⟩
      · exact ⟨hwhole, hfraction⟩
  · exact ⟨hwhole, hfraction⟩

/-- Both parts are zero only if neither side of the point has room for another digit. -/
theorem nonZero_eq_zero {left right whole fraction : Nat}
    (hwhole : (nonZero left right whole fraction).1 = 0)
    (hfraction : (nonZero left right whole fraction).2 = 0) : left = 0 ∧ right = 0 := by
  by_cases hzero : whole = 0 ∧ fraction = 0
  · by_cases hright : 0 < right
    · simp [nonZero, hzero, hright] at hfraction
    · by_cases hleft : 0 < left
      · simp [nonZero, hzero, hright, hleft] at hwhole
      · omega
  · rw [nonZero, if_neg hzero] at hwhole hfraction
    exact absurd ⟨hwhole, hfraction⟩ hzero

/-- What is made up writes two parts that fit their digits and are zero only without any digits. -/
theorem exists_decimal_eq (left right : Nat) (draws : Draws) :
    ∃ whole fraction, whole < 10 ^ min left digitCap ∧ fraction < 10 ^ min right digitCap ∧
      (whole = 0 → fraction = 0 → left = 0 ∧ right = 0) ∧
      (decimal left right draws).1 = decimalText whole fraction (min right digitCap) := by
  have hpow : ∀ exponent, 0 < Nat.pow 10 exponent := fun exponent => Nat.pow_pos (by decide)
  let whole := below (Nat.pow 10 (min left digitCap)) draws
  let fraction := below (Nat.pow 10 (min right digitCap)) whole.2
  have hwhole : whole.1 < 10 ^ min left digitCap := below_lt (hpow _) draws
  have hfraction : fraction.1 < 10 ^ min right digitCap := below_lt (hpow _) whole.2
  obtain ⟨hleft, hright⟩ := nonZero_lt hwhole hfraction
  refine ⟨_, _, hleft, hright, fun hzero hnone => ?_, rfl⟩
  have hcaps := nonZero_eq_zero hzero hnone
  simp only [digitCap] at hcaps
  omega

/-! ## Numbers within a limit -/

def upTo? (limit n : Nat) : Option Nat :=
  if n ≤ limit then some n else none

def powerUpTo? (limit : Nat) : Nat → Option Nat
  | 0 => upTo? limit 1
  | exponent + 1 => do
      let power ← powerUpTo? limit exponent
      upTo? limit (power * 10)

def joinUpTo? (limit high low : Nat) : Option Nat := do
  let shifted ← upTo? limit (high * wordSize)
  upTo? limit (shifted + low)

def belowUpTo? (limit bound : Nat) (draws : Draws) : Option (Nat × Draws) :=
  if bound ≤ wordSize then
    some (below bound draws)
  else
    (joinUpTo? limit (next draws).1.toNat (next (next draws).2).1.toNat).map fun number =>
      (number % bound, (next (next draws).2).2)

/-- A decimal as it is made up, given up when a number on the way exceeds a limit. -/
def decimalUpTo? (limit left right : Nat) (draws : Draws) : Option (String × Draws) := do
  let left := min left digitCap
  let right := min right digitCap
  let wholes ← powerUpTo? limit left
  let (whole, draws) ← belowUpTo? limit wholes draws
  let fractions ← powerUpTo? limit right
  let (fraction, draws) ← belowUpTo? limit fractions draws
  let (whole, fraction) := nonZero left right whole fraction
  some (decimalText whole fraction right, draws)

theorem upTo?_eq {limit n : Nat} (h : n ≤ limit) : upTo? limit n = some n :=
  if_pos h

/-- A power within the limit is reached, since each product on the way is smaller. -/
theorem powerUpTo?_eq {limit exponent : Nat} (h : Nat.pow 10 exponent ≤ limit) :
    powerUpTo? limit exponent = some (Nat.pow 10 exponent) := by
  induction exponent with
  | zero => exact upTo?_eq h
  | succ exponent ih =>
      have hstep : Nat.pow 10 (exponent + 1) = Nat.pow 10 exponent * 10 := rfl
      rw [powerUpTo?, ih (by omega), hstep]
      exact upTo?_eq h

/-- Two words, one of them shifted by a word, make a number of at most 128 bits. -/
theorem joined_words_le {high low : Nat} (hhigh : high < wordSize) (hlow : low < wordSize) :
    high * wordSize + low ≤ 2 ^ 128 - 1 := by
  have hsquare : wordSize * wordSize = 2 ^ 128 := by decide
  have hshifted : (high + 1) * wordSize ≤ wordSize * wordSize := Nat.mul_le_mul_right _ hhigh
  rw [Nat.add_mul, Nat.one_mul] at hshifted
  -- The products are numbers like any other from here on.
  generalize high * wordSize = shifted at *
  generalize wordSize * wordSize = square at *
  omega

theorem joinUpTo?_eq {limit high low : Nat} (h : 2 ^ 128 - 1 ≤ limit) (hhigh : high < wordSize)
    (hlow : low < wordSize) : joinUpTo? limit high low = some (high * wordSize + low) := by
  have hjoined := Nat.le_trans (joined_words_le hhigh hlow) h
  have hshifted := Nat.le_trans (Nat.le_add_right _ _) hjoined
  rw [joinUpTo?, upTo?_eq hshifted, Option.bind_eq_bind, Option.bind_some, upTo?_eq hjoined]

theorem belowUpTo?_eq {limit : Nat} (h : 2 ^ 128 - 1 ≤ limit) (bound : Nat) (draws : Draws) :
    belowUpTo? limit bound draws = some (below bound draws) := by
  unfold belowUpTo? below
  split
  · rfl
  · simp only [joinUpTo?_eq h (next draws).1.toNat_lt_size (next (next draws).2).1.toNat_lt_size,
      Option.map_some, bind_apply, pure_apply]

theorem decimalUpTo?_eq {limit : Nat} (h : 2 ^ 128 - 1 ≤ limit) (left right : Nat) (draws : Draws) :
    decimalUpTo? limit left right draws = some (decimal left right draws) := by
  have hpower : ∀ digits, Nat.pow 10 (min digits digitCap) ≤ limit := by
    intro digits
    have hcap : Nat.pow 10 (min digits digitCap) ≤ Nat.pow 10 digitCap :=
      Nat.pow_le_pow_right (by decide) (Nat.min_le_right _ _)
    have hfits : Nat.pow 10 digitCap ≤ 2 ^ 128 - 1 := by decide
    omega
  simp only [decimalUpTo?, decimal, powerUpTo?_eq (hpower _), belowUpTo?_eq h, Option.bind_eq_bind,
    Option.bind_some, bind_apply, pure_apply]

end Fake

namespace Synthesis

open Text

/-! ## Decimals of a field -/

/-- What a decimal of so many digits is, so many of them behind its point. -/
structure IsWithin (digits places : Nat) (numeral : String) : Prop where
  form : IsDecimal (min places 38) numeral.toList
  nonneg : 0 ≤ decimalValue numeral.toList
  below : decimalValue numeral.toList < 10 ^ min (digits - places) 38
  /-- Zero is written only where no other number can be. -/
  zero : decimalValue numeral.toList = 0 → digits = 0

theorem parts_lt {whole fraction left right : Nat} (hwhole : whole < 10 ^ left)
    (hfraction : fraction < 10 ^ right) : (whole + fraction / 10 ^ right : ℚ) < 10 ^ left := by
  have hone : (fraction / 10 ^ right : ℚ) < 1 := by
    rw [div_lt_one (by positivity)]
    exact_mod_cast hfraction
  calc
    (whole + fraction / 10 ^ right : ℚ)
    _ < whole + 1 := (add_lt_add_iff_left _).2 hone
    _ ≤ 10 ^ left := by exact_mod_cast hwhole

theorem isWithin_decimal {digits places : Nat} (h : places ≤ digits) (draws : Draws) :
    IsWithin digits places (Fake.decimal (digits - places) places draws).1 := by
  obtain ⟨whole, fraction, hwhole, hfraction, hzero, hmade⟩ :=
    Fake.exists_decimal_eq (digits - places) places draws
  have hvalue := Fake.decimalValue_decimalText hfraction whole
  have hfractionNonneg : (0 : ℚ) ≤ fraction / 10 ^ min places Fake.digitCap := by positivity
  rw [hmade]
  refine ⟨Fake.isDecimal_decimalText _ _ _, ?_, ?_, ?_⟩
  · rw [hvalue]
    positivity
  · rw [hvalue]
    exact parts_lt hwhole hfraction
  · intro hnone
    rw [hvalue, add_eq_zero_iff_of_nonneg (Nat.cast_nonneg whole) hfractionNonneg] at hnone
    have hfractionZero : fraction = 0 := by simpa using hnone.2
    have hsides := hzero (by exact_mod_cast hnone.1) hfractionZero
    omega

section

variable {field : Field} (hsource : field.source = none) (hkind : field.kind = .decimal)
include hsource hkind

theorem value_of_decimal (now : Instant) : value now field = asValue .decimal (decimal field) := by
  simp only [value, hsource, byKind, hkind]

theorem value_decimal_of_lt
    (h : field.maxDigits.getD defaultDigits < field.decimalPlaces.getD defaultPlaces) (now : Instant)
    (draws : Draws) : ∃ failure, value now field draws = (.error failure, draws) := by
  rw [value_of_decimal hsource hkind, decimal, if_pos h]
  exact ⟨_, rfl⟩

theorem value_decimal_of_le
    (h : field.decimalPlaces.getD defaultPlaces ≤ field.maxDigits.getD defaultDigits) (now : Instant)
    (draws : Draws) :
    value now field draws =
      let made := Fake.decimal
        (field.maxDigits.getD defaultDigits - field.decimalPlaces.getD defaultPlaces)
        (field.decimalPlaces.getD defaultPlaces) draws
      (.ok (some (.decimal made.1)), made.2) := by
  rw [value_of_decimal hsource hkind, decimal, if_neg (Nat.not_lt.2 h)]
  rfl

end

theorem value_decimal_fails_iff {field : Field} (hkind : field.kind = .decimal) (now : Instant)
    (draws : Draws) :
    (∃ failure, (value now field draws).1 = .error failure) ↔
      field.source ≠ none ∨
        field.maxDigits.getD defaultDigits < field.decimalPlaces.getD defaultPlaces := by
  cases hsource : field.source with
  | some source =>
      have hmisfit := value_misfit hsource (by rw [hkind]; rfl) now draws
      exact iff_of_true ⟨_, congrArg Prod.fst hmisfit⟩ (.inl (Option.some_ne_none source))
  | none =>
      rcases Nat.lt_or_ge (field.maxDigits.getD defaultDigits) (field.decimalPlaces.getD defaultPlaces)
        with hmany | hfew
      · obtain ⟨failure, hfailure⟩ := value_decimal_of_lt hsource hkind hmany now draws
        exact iff_of_true ⟨failure, congrArg Prod.fst hfailure⟩ (.inr hmany)
      · have hmade := value_decimal_of_le hsource hkind hfew now draws
        refine iff_of_false ?_ (by simp [Nat.not_lt.2 hfew])
        rintro ⟨failure, hfailure⟩
        rw [hmade] at hfailure
        cases hfailure

/--
A decimal field fails to get a value exactly when it names a source of text, which is none for
decimals, or has more places than digits.  Any other gets a decimal that keeps to its digits and
places, and no number on the way to it takes more than 128 bits.  Whatever the two parts of a decimal,
its text has the form of one and writes just these parts.
-/
theorem decimal_digits {field : Field} (hkind : field.kind = .decimal) (now : Instant) (draws : Draws) :
    let digits := field.maxDigits.getD 10
    let places := field.decimalPlaces.getD 2
    ((∃ failure, (value now field draws).1 = .error failure) ↔
        field.source ≠ none ∨ digits < places) ∧
      (field.source = none → places ≤ digits →
        ∃ numeral, (value now field draws).1 = .ok (some (.decimal numeral)) ∧
          IsWithin digits places numeral ∧
          Fake.decimalUpTo? (2 ^ 128 - 1) (digits - places) places draws =
            some (numeral, (value now field draws).2)) ∧
      ∀ whole fraction width, fraction < 10 ^ width →
        IsDecimal width (Fake.decimalText whole fraction width).toList ∧
          decimalValue (Fake.decimalText whole fraction width).toList =
            whole + fraction / 10 ^ width := by
  intro digits places
  refine ⟨value_decimal_fails_iff hkind now draws, fun hsource hplaces => ?_,
    fun whole fraction width hfraction =>
      ⟨Fake.isDecimal_decimalText _ _ _, Fake.decimalValue_decimalText hfraction whole⟩⟩
  have hmade := value_decimal_of_le hsource hkind hplaces now draws
  refine ⟨_, congrArg Prod.fst hmade, isWithin_decimal hplaces draws, ?_⟩
  rw [Fake.decimalUpTo?_eq (Nat.le_refl _), hmade]
  rfl

/-- A decimal without digits in front of its point, of which seven thousandths are drawn. -/
theorem decimal_digits_share :
    let share : Field :=
      { name := "share", kind := .decimal, maxDigits := some 3, decimalPlaces := some 3 }
    let draws : Draws := { state := 0, queued := [5, 1007] }
    share.kind = .decimal ∧ (value ⟨0, 0⟩ share draws).1 = .ok (some (.decimal "0.007")) ∧
      IsWithin 3 3 "0.007" := by
  intro share draws
  have htext : (Fake.decimal 0 3 draws).1 = "0.007" := by decide
  have hmade : (value ⟨0, 0⟩ share draws).1 = .ok (some (.decimal "0.007")) := by
    rw [value_decimal_of_le rfl rfl (by decide), ← htext]
    rfl
  obtain ⟨numeral, hnumeral, hwithin, -⟩ :=
    (@decimal_digits share rfl ⟨0, 0⟩ draws).2.1 rfl (by decide)
  rw [hmade] at hnumeral
  cases hnumeral
  exact ⟨rfl, hmade, hwithin⟩

/--
A price has room for its places, and still gets no value when it is to come from the phone
numbers.
-/
theorem decimal_refused_phone_price :
    let price : Field := { name := "price", kind := .decimal, source := some .phone }
    ¬ price.maxDigits.getD 10 < price.decimalPlaces.getD 2 ∧
      ∃ failure, (value ⟨0, 0⟩ price (Draws.ofSeed 1)).1 = .error failure :=
  ⟨by decide, _, rfl⟩

end Synthesis

end SampleData
