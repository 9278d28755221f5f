import SampleData.Text.Digit

/-!
# Numerals

What is written in digits is read back as the same number, both as a row of digits without needless
zeros in front and as a row of given length.
-/

namespace SampleData

namespace Text

/-! ## Natural numbers -/

theorem isPlainDigit_of_mem_toDigits {n : Nat} {c : Char} (h : c ∈ Nat.toDigits 10 n) :
    isPlainDigit c = true := by
  have hdigit : c.isDigit = true := Nat.isDigit_of_mem_toDigits (by decide) (by decide) h
  simp only [Char.isDigit, Bool.and_eq_true, decide_eq_true_eq] at hdigit
  simp only [isPlainDigit, Bool.and_eq_true, decide_eq_true_eq]
  exact hdigit

theorem numeralValue_toDigits (n : Nat) : numeralValue (Nat.toDigits 10 n) = n := by
  have hvalue : Nat.ofDigitChars 10 (Nat.toDigits 10 n) 0 = n := Nat.ofDigitChars_ten_toDigits
  rw [Nat.ofDigitChars_eq_foldl] at hvalue
  simpa [numeralValue, plainDigitValue, Nat.mul_comm] using hvalue

theorem numeral?_toDigits {bound n : Nat} (h : n < bound) :
    numeral? bound (Nat.toDigits 10 n) = some n := by
  have hall : (Nat.toDigits 10 n).all isPlainDigit = true :=
    List.all_eq_true.2 fun c hc => isPlainDigit_of_mem_toDigits hc
  have hne : (Nat.toDigits 10 n).isEmpty = false := List.isEmpty_eq_false_iff.2 Nat.toDigits_ne_nil
  rw [numeral?, hall, hne, numeralValue_toDigits, if_pos h]
  rfl

/-- A row of digits that starts with a zero only if there is nothing else. -/
structure IsNumeral (digits : List Char) : Prop where
  nonempty : digits ≠ []
  plain : ∀ c ∈ digits, isPlainDigit c = true
  front : digits.head? = some '0' → digits = ['0']

theorem toDigits_head?_ne_zero {n : Nat} (h : 0 < n) : (Nat.toDigits 10 n).head? ≠ some '0' := by
  induction n using Nat.strongRecOn with
  | ind n ih =>
      rcases Nat.lt_or_ge n 10 with hone | hmany
      · rw [Nat.toDigits_of_lt_base hone, List.head?_cons, ne_eq, Option.some.injEq,
          Nat.digitChar_eq_zero]
        exact Nat.ne_of_gt h
      · have hrest : (Nat.toDigits 10 (n / 10)).head? ≠ some '0' := ih _ (by omega) (by omega)
        rwa [Nat.toDigits_of_base_le (by decide) hmany, List.head?_append,
          Option.or_of_isSome (List.isSome_head?.2 Nat.toDigits_ne_nil)]

theorem isNumeral_toDigits (n : Nat) : IsNumeral (Nat.toDigits 10 n) where
  nonempty := Nat.toDigits_ne_nil
  plain := fun _ => isPlainDigit_of_mem_toDigits
  front := by
    intro hfront
    rcases Nat.eq_zero_or_pos n with rfl | hpos
    · exact Nat.toDigits_zero 10
    · exact absurd hfront (toDigits_head?_ne_zero hpos)

/-! ## Rows of given length -/

theorem isPlainDigit_digitChar {digit : Nat} (h : digit < 10) :
    isPlainDigit (Nat.digitChar digit) = true := by
  have hall : ∀ digit < 10, isPlainDigit (Nat.digitChar digit) = true := by decide
  exact hall digit h

theorem plainDigitValue_digitChar {digit : Nat} (h : digit < 10) :
    plainDigitValue (Nat.digitChar digit) = digit :=
  Nat.toNat_digitChar_sub_48_of_lt_ten h

theorem isPlainDigit_of_mem_digitsOfWidth {count n : Nat} {c : Char}
    (h : c ∈ digitsOfWidth count n) : isPlainDigit c = true := by
  induction count generalizing n with
  | zero => cases h
  | succ count ih =>
      rcases List.mem_append.1 h with hfront | hlast
      · exact ih hfront
      · rw [List.mem_singleton.1 hlast]
        exact isPlainDigit_digitChar (Nat.mod_lt _ (by decide))

theorem numeralValue_concat (digits : List Char) (c : Char) :
    numeralValue (digits ++ [c]) = numeralValue digits * 10 + plainDigitValue c := by
  simp only [numeralValue, List.foldl_append, List.foldl_cons, List.foldl_nil]

/-- A row that is long enough holds the whole number, behind as many zeros as are needed. -/
theorem numeralValue_digitsOfWidth {count n : Nat} (h : n < Nat.pow 10 count) :
    numeralValue (digitsOfWidth count n) = n := by
  induction count generalizing n with
  | zero => exact (Nat.lt_one_iff.1 h).symm
  | succ count ih =>
      have hpow : Nat.pow 10 (count + 1) = Nat.pow 10 count * 10 := rfl
      have hfront : numeralValue (digitsOfWidth count (n / 10)) = n / 10 := ih (by omega)
      rw [digitsOfWidth, numeralValue_concat, hfront,
        plainDigitValue_digitChar (Nat.mod_lt _ (by decide))]
      omega

end Text

end SampleData
