/-!
# Decimal digits of every script

The characters with the property Nd of Unicode 16.0.  They come in runs of ten, zero to nine,
so the table lists the zeros alone.
-/

namespace SampleData

namespace Text

/-- The code points of the digits zero, in order. -/
def digitZeros : List Nat :=
  [0x0030, 0x0660, 0x06F0, 0x07C0, 0x0966, 0x09E6, 0x0A66, 0x0AE6,
   0x0B66, 0x0BE6, 0x0C66, 0x0CE6, 0x0D66, 0x0DE6, 0x0E50, 0x0ED0,
   0x0F20, 0x1040, 0x1090, 0x17E0, 0x1810, 0x1946, 0x19D0, 0x1A80,
   0x1A90, 0x1B50, 0x1BB0, 0x1C40, 0x1C50, 0xA620, 0xA8D0, 0xA900,
   0xA9D0, 0xA9F0, 0xAA50, 0xABF0, 0xFF10, 0x104A0, 0x10D30, 0x10D40,
   0x11066, 0x110F0, 0x11136, 0x111D0, 0x112F0, 0x11450, 0x114D0, 0x11650,
   0x116C0, 0x116D0, 0x116DA, 0x11730, 0x118E0, 0x11950, 0x11BF0, 0x11C50,
   0x11D50, 0x11DA0, 0x11F50, 0x16130, 0x16A60, 0x16AC0, 0x16B50, 0x16D70,
   0x1CCF0, 0x1D7CE, 0x1D7D8, 0x1D7E2, 0x1D7EC, 0x1D7F6, 0x1E140, 0x1E2F0,
   0x1E4F0, 0x1E5F1, 0x1E950, 0x1FBF0]

/-- Whether a character is a decimal digit of some script. -/
def isDecimalDigit (c : Char) : Bool :=
  digitZeros.any fun first => first ≤ c.toNat && c.toNat < first + 10

def isPlainDigit (c : Char) : Bool :=
  '0' ≤ c && c ≤ '9'

theorem isDecimalDigit_of_plain {c : Char} (h : isPlainDigit c = true) :
    isDecimalDigit c = true := by
  simp only [isPlainDigit, Bool.and_eq_true, decide_eq_true_eq] at h
  have hlow : 48 ≤ c.toNat := h.1
  have hhigh : c.toNat ≤ 57 := h.2
  simp only [isDecimalDigit, digitZeros, List.any_cons, Bool.or_eq_true, Bool.and_eq_true,
    decide_eq_true_eq]
  exact Or.inl ⟨hlow, by omega⟩

def plainDigitValue (c : Char) : Nat :=
  c.toNat - '0'.toNat

def numeralValue (digits : List Char) : Nat :=
  digits.foldl (fun total c => total * 10 + plainDigitValue c) 0

/-- The number a non-empty text of digits `0` to `9` writes, if it is below `bound`. -/
def numeral? (bound : Nat) (digits : List Char) : Option Nat :=
  if digits.isEmpty || !digits.all isPlainDigit then
    none
  else if numeralValue digits < bound then
    some (numeralValue digits)
  else
    none

/-- The last `count` decimal digits of a number, the highest first. -/
def digitsOfWidth : Nat → Nat → List Char
  | 0, _ => []
  | count + 1, n => digitsOfWidth count (n / 10) ++ [Nat.digitChar (n % 10)]

theorem length_digitsOfWidth (count n : Nat) : (digitsOfWidth count n).length = count := by
  induction count generalizing n with
  | zero => rfl
  | succ count ih => simp [digitsOfWidth, ih]

theorem eq_of_toString_eq {m n : Nat} (h : toString m = toString n) : m = n := by
  have hdigits : Nat.toDigits 10 m = Nat.toDigits 10 n := by
    rw [← Nat.toList_repr, ← Nat.toList_repr]
    exact congrArg String.toList h
  have hvalue := congrArg (fun digits => Nat.ofDigitChars 10 digits 0) hdigits
  simpa only [Nat.ofDigitChars_ten_toDigits] using hvalue

end Text

end SampleData
