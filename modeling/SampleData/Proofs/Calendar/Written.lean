import SampleData.Proofs.Calendar

/-!
# Moments told apart by their text

The text of an instant gives back its date, the second of its day and its nanoseconds, so two
instants with the same text are the same.
-/

namespace SampleData

namespace Text

/-! ## Rows of digits -/

theorem digitChar_inj {m n : Nat} (hm : m < 10) (hn : n < 10)
    (h : Nat.digitChar m = Nat.digitChar n) : m = n := by
  have hvalue := congrArg Char.toNat h
  rw [Nat.toNat_digitChar_of_lt_ten hm, Nat.toNat_digitChar_of_lt_ten hn] at hvalue
  omega

theorem digitsOfWidth_inj {count m n : Nat} (hm : m < Nat.pow 10 count)
    (hn : n < Nat.pow 10 count) (h : digitsOfWidth count m = digitsOfWidth count n) : m = n := by
  induction count generalizing m n with
  | zero =>
      have hone : Nat.pow 10 0 = 1 := rfl
      omega
  | succ count ih =>
      have hpow : Nat.pow 10 (count + 1) = Nat.pow 10 count * 10 := rfl
      obtain ⟨hfront, hlast⟩ := List.append_inj' h rfl
      have hdigit : m % 10 = n % 10 :=
        digitChar_inj (Nat.mod_lt _ (by decide)) (Nat.mod_lt _ (by decide)) (List.cons.inj hlast).1
      have hrest : m / 10 = n / 10 := ih (by omega) (by omega) hfront
      omega

theorem dropEndWhile_append (p : Char → Bool) (text : List Char) :
    ∃ dropped, text = dropEndWhile p text ++ dropped ∧ ∀ c ∈ dropped, p c = true := by
  refine ⟨(text.reverse.takeWhile p).reverse, ?_, ?_⟩
  · unfold dropEndWhile
    rw [← List.reverse_append, List.takeWhile_append_dropWhile, List.reverse_reverse]
  · intro c hc
    exact List.all_eq_true.1 (List.all_takeWhile (l := text.reverse)) c (List.mem_reverse.1 hc)

/-- Two texts of one length that differ at most in the zeros they end with are the same. -/
theorem eq_of_dropEndWhile_eq {zero : Char} {first second : List Char}
    (hlength : first.length = second.length)
    (h : dropEndWhile (fun c => c == zero) first = dropEndWhile (fun c => c == zero) second) :
    first = second := by
  obtain ⟨zeros, hfirst, hzeros⟩ := dropEndWhile_append (fun c => c == zero) first
  obtain ⟨others, hsecond, hothers⟩ := dropEndWhile_append (fun c => c == zero) second
  have hsame : zeros.length = others.length := by
    have hfront := congrArg List.length h
    have hwhole := congrArg List.length hfirst
    have hwhole' := congrArg List.length hsecond
    simp only [List.length_append] at hwhole hwhole'
    omega
  have heq : zeros = others := by
    rw [List.eq_replicate_of_mem fun c hc => eq_of_beq (hzeros c hc),
      List.eq_replicate_of_mem fun c hc => eq_of_beq (hothers c hc), hsame]
  rw [hfirst, hsecond, h, heq]

end Text

namespace Calendar

/-! ## Days of a year -/

def daysIn (lengths : List Nat) : Nat :=
  lengths.foldr (· + ·) 0

/-- Month and day tell how many days of the year have passed, and are small. -/
theorem monthAndDay_days {lengths : List Nat} (hshort : ∀ length ∈ lengths, length ≤ 31)
    (month passed : Nat) (h : passed < daysIn lengths) :
    ∃ whole day, whole < lengths.length ∧ day ≤ 31 ∧
      monthAndDay lengths month passed = (month + whole, day) ∧
      daysIn (lengths.take whole) + day = passed + 1 := by
  induction lengths generalizing month passed with
  | nil => cases h
  | cons length rest ih =>
      rw [List.forall_mem_cons] at hshort
      have hdays : daysIn (length :: rest) = length + daysIn rest := rfl
      by_cases hin : passed < length
      · refine ⟨0, passed + 1, Nat.zero_lt_succ _, by omega, by simp [monthAndDay, hin], ?_⟩
        simp [daysIn]
      · obtain ⟨whole, day, hwhole, hday, hread, hsum⟩ :=
          ih hshort.2 (month + 1) (passed - length) (by omega)
        refine ⟨whole + 1, day, by simpa using hwhole, hday, ?_, ?_⟩
        · rw [monthAndDay, if_neg hin, hread]
          simp only [Prod.mk.injEq, and_true]
          omega
        · have htake : daysIn ((length :: rest).take (whole + 1)) =
              length + daysIn (rest.take whole) := rfl
          omega

theorem monthLengths_le {leap : Bool} : ∀ length ∈ monthLengths leap, length ≤ 31 := by
  cases leap <;> decide

theorem daysIn_monthLengths (year : Int) :
    (daysIn (monthLengths (isLeap year)) : Int) = yearStart (year + 1) - yearStart year := by
  have hlengths : ∀ leap, daysIn (monthLengths leap) = if leap then 366 else 365 := by decide
  have hleap : isLeap year = true ↔ year % 4 = 0 ∧ (year % 100 ≠ 0 ∨ year % 400 = 0) := by
    simp [isLeap]
  rw [hlengths]
  simp only [yearStart]
  split
  · rename_i hyear
    have hrule := hleap.1 hyear
    omega
  · rename_i hyear
    have hrule := mt hleap.2 hyear
    omega

end Calendar

namespace Date

open Calendar

theorem monthDay_days (date : Date) :
    ∃ whole day, whole < 12 ∧ day ≤ 31 ∧ date.monthDay = (1 + whole, day) ∧
      (daysIn ((monthLengths (isLeap date.year)).take whole) + day : Int) =
        date.number - yearStart date.year + 1 := by
  have hstart : yearStart date.year ≤ date.number := yearStart_yearOf_le date.number
  have hnext : date.number < yearStart (date.year + 1) := lt_yearStart_yearOf_succ date.number
  have hlast := daysIn_monthLengths date.year
  have hpassed : (date.number - yearStart date.year).toNat <
      daysIn (monthLengths (isLeap date.year)) := by omega
  obtain ⟨whole, day, hwhole, hday, hread, hsum⟩ := monthAndDay_days monthLengths_le 1 _ hpassed
  refine ⟨whole, day, hwhole, hday, hread, ?_⟩
  omega

theorem eq_of_monthDay_eq {first second : Date} (hyear : first.year = second.year)
    (hday : first.monthDay = second.monthDay) : first = second := by
  obtain ⟨whole, day, -, -, hfirst, hsum⟩ := first.monthDay_days
  obtain ⟨others, another, -, -, hsecond, hsum'⟩ := second.monthDay_days
  rw [hfirst, hsecond] at hday
  obtain ⟨hmonth, rfl⟩ := Prod.mk.inj hday
  obtain rfl : whole = others := by omega
  rw [hyear] at hsum
  have hnumber : first.number = second.number := by omega
  cases first
  cases second
  exact congrArg Date.mk hnumber

theorem HasFourDigits.toNat_lt {date : Date} (h : date.HasFourDigits) :
    date.year.toNat < 10000 := by
  have hlast : date.year ≤ 9999 := h.2
  omega

end Date

namespace Calendar

open Text

/-! ## Fractions -/

def secondNanos : Nat := 1000000000

theorem fractionDigits_inj {first second : Nat} (hfirst : first < secondNanos)
    (hsecond : second < secondNanos) (h : fractionDigits first = fractionDigits second) :
    first = second := by
  have hlength : (digitsOfWidth 9 first).length = (digitsOfWidth 9 second).length := by
    rw [length_digitsOfWidth, length_digitsOfWidth]
  exact @digitsOfWidth_inj 9 _ _ hfirst hsecond (eq_of_dropEndWhile_eq hlength h)

theorem fractionText_inj {first second : Nat} (hfirst : first < secondNanos)
    (hsecond : second < secondNanos) (h : fractionText first = fractionText second) :
    first = second := by
  refine fractionDigits_inj hfirst hsecond ?_
  unfold fractionText at h
  cases hdigits : fractionDigits first <;> cases hothers : fractionDigits second <;>
    simp [hdigits, hothers] at h ⊢
  exact h

theorem twoDigits_inj {mark : Char} {a b c d : Nat} (ha : a < 100) (hb : b < 100) (hc : c < 100)
    (hd : d < 100) (h : twoDigits a mark b = twoDigits c mark d) : a = c ∧ b = d := by
  have hlength : (digitsOfWidth 2 a).length = (digitsOfWidth 2 c).length := by
    rw [length_digitsOfWidth, length_digitsOfWidth]
  obtain ⟨hfront, hback⟩ := List.append_inj h hlength
  exact ⟨@digitsOfWidth_inj 2 _ _ ha hc hfront,
    @digitsOfWidth_inj 2 _ _ hb hd (List.cons.inj hback).2⟩

theorem length_twoDigits (a : Nat) (mark : Char) (b : Nat) : (twoDigits a mark b).length = 5 := by
  simp [twoDigits, length_digitsOfWidth]

end Calendar

namespace Instant

open Calendar Text

theorem eq_of_date_eq {first second : Instant} (hdate : first.date = second.date)
    (hsecond : first.secondOfDay = second.secondOfDay) (hnanos : first.nanos = second.nanos) :
    first = second := by
  have hday : first.seconds / daySeconds = second.seconds / daySeconds := congrArg Date.number hdate
  simp only [secondOfDay, daySeconds] at hday hsecond
  have hseconds : first.seconds = second.seconds := by omega
  cases first
  cases second
  simp_all

/--
The characters of an instant are told apart part by part, as each part but the last has its
length.
-/
theorem writtenChars_inj {first second : Instant}
    (hfirst : first.date.HasFourDigits) (hsecond : second.date.HasFourDigits)
    (hnanos : first.nanos < secondNanos) (hothers : second.nanos < secondNanos)
    (h : first.writtenChars = second.writtenChars) : first = second := by
  obtain ⟨whole, day, hwhole, hday, hmonth, -⟩ := first.date.monthDay_days
  obtain ⟨others, another, hothersWhole, hanother, hmonth', -⟩ := second.date.monthDay_days
  have hclock : first.secondOfDay < 86400 := by
    simp only [secondOfDay, daySeconds]
    omega
  have hclock' : second.secondOfDay < 86400 := by
    simp only [secondOfDay, daySeconds]
    omega
  simp only [writtenChars, hmonth, hmonth'] at h
  -- Taken apart from the right: the fraction is the only part whose length may differ.
  obtain ⟨h, -⟩ := List.append_inj' h rfl
  obtain ⟨h, hfraction⟩ := List.append_inj h (by simp [length_digitsOfWidth, length_twoDigits])
  obtain ⟨h, hlast⟩ := List.append_inj h (by simp [length_digitsOfWidth, length_twoDigits])
  obtain ⟨h, htime⟩ := List.append_inj h (by simp [length_digitsOfWidth, length_twoDigits])
  obtain ⟨hyear, hmonthDay⟩ := List.append_inj h (by simp [length_digitsOfWidth])
  have hyears : first.date.year.toNat = second.date.year.toNat :=
    @digitsOfWidth_inj 4 _ _ hfirst.toNat_lt hsecond.toNat_lt hyear
  have hdays := twoDigits_inj (by omega) (by omega) (by omega) (by omega)
    (List.cons.inj hmonthDay).2
  have htimes := twoDigits_inj (by omega) (by omega) (by omega) (by omega) (List.cons.inj htime).2
  have hsmall : ∀ number, number % 60 < 100 := fun number => by omega
  have hseconds : first.secondOfDay % 60 = second.secondOfDay % 60 :=
    @digitsOfWidth_inj 2 _ _ (hsmall _) (hsmall _) (List.cons.inj hlast).2
  refine eq_of_date_eq (Date.eq_of_monthDay_eq ?_ ?_) (by omega)
    (fractionText_inj hnanos hothers hfraction)
  · have hpositive := hfirst.1
    have hpositive' := hsecond.1
    omega
  · rw [hmonth, hmonth', hdays.1, hdays.2]

theorem written_eq_ok_iff {instant : Instant} {text : String} :
    instant.written = .ok text ↔
      instant.date.HasFourDigits ∧ String.ofList instant.writtenChars = text := by
  unfold written Date.HasFourDigits
  split
  · rename_i hyear
    simp [hyear]
  · rename_i hyear
    simp [hyear]

theorem eq_of_written {first second : Instant} (hnanos : first.nanos < secondNanos)
    (hothers : second.nanos < secondNanos) {text : String} (hfirst : first.written = .ok text)
    (hsecond : second.written = .ok text) : first = second := by
  obtain ⟨hyear, hchars⟩ := written_eq_ok_iff.1 hfirst
  obtain ⟨hyear', hchars'⟩ := written_eq_ok_iff.1 hsecond
  exact writtenChars_inj hyear hyear' hnanos hothers
    (String.ofList_injective (hchars.trans hchars'.symm))

end Instant

theorem Date.midnight_inj {first second : Date} (h : first.midnight = second.midnight) :
    first = second := by
  rw [← first.midnight_date, ← second.midnight_date, h]

end SampleData
