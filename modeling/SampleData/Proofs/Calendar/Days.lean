import SampleData.Proofs.Calendar.Written

/-!
# Day after day

Counting days and naming them by year, month and day of the month are inverse to each other, and
the name of each day follows from that of the day before by the rules of the Gregorian calendar.
-/

namespace SampleData

namespace Calendar

/-! ## Months of a year -/

/-- So many months have passed whole and so many days of the next: that tells month and day. -/
theorem monthAndDay_eq {lengths : List Nat} {whole day : Nat} (h : day < lengths.getD whole 0)
    (month : Nat) :
    monthAndDay lengths month (daysIn (lengths.take whole) + day) = (month + whole, day + 1) := by
  induction lengths generalizing whole month with
  | nil => cases h
  | cons length rest ih =>
      cases whole with
      | zero =>
          have hday : daysIn ((length :: rest).take 0) + day = day := Nat.zero_add day
          have hin : day < length := h
          rw [hday, monthAndDay, if_pos hin]
          rfl
      | succ whole =>
          have hpassed : daysIn ((length :: rest).take (whole + 1)) + day =
              length + (daysIn (rest.take whole) + day) := Nat.add_assoc _ _ _
          rw [hpassed, monthAndDay, if_neg (by omega), Nat.add_sub_cancel_left, ih h (month + 1)]
          simp only [Prod.mk.injEq, and_true]
          omega

theorem exists_month {lengths : List Nat} {passed : Nat} (h : passed < daysIn lengths) :
    ∃ whole day, day < lengths.getD whole 0 ∧ passed = daysIn (lengths.take whole) + day := by
  induction lengths generalizing passed with
  | nil => cases h
  | cons length rest ih =>
      have hdays : daysIn (length :: rest) = length + daysIn rest := rfl
      by_cases hin : passed < length
      · exact ⟨0, passed, hin, (Nat.zero_add passed).symm⟩
      · have hrest : passed - length < daysIn rest := by omega
        obtain ⟨whole, day, hday, hsplit⟩ := ih hrest
        refine ⟨whole + 1, day, hday, ?_⟩
        have htake : daysIn ((length :: rest).take (whole + 1)) = length + daysIn (rest.take whole) := rfl
        omega

theorem daysIn_take_succ (lengths : List Nat) (whole : Nat) :
    daysIn (lengths.take (whole + 1)) = daysIn (lengths.take whole) + lengths.getD whole 0 := by
  induction lengths generalizing whole with
  | nil => simp [daysIn]
  | cons length rest ih =>
      cases whole with
      | zero => simp [daysIn]
      | succ whole =>
          have hstep := ih whole
          simp only [daysIn, List.take_succ_cons, List.foldr_cons, List.getD_cons_succ] at hstep ⊢
          omega

theorem daysIn_take_le (lengths : List Nat) (whole : Nat) :
    daysIn (lengths.take whole) ≤ daysIn lengths := by
  induction lengths generalizing whole with
  | nil => simp
  | cons length rest ih =>
      cases whole with
      | zero => exact Nat.zero_le _
      | succ whole => exact Nat.add_le_add_left (ih whole) length

/-! ## Days of the calendar -/

/-- How long a month of a year is; of no other than the months from one to twelve is there a day. -/
def monthLength (year : Int) (month : Nat) : Nat :=
  (monthLengths (isLeap year)).getD (month - 1) 0

def IsDay (year : Int) (month day : Nat) : Prop :=
  1 ≤ month ∧ 1 ≤ day ∧ day ≤ monthLength year month

def dayAfter : Int × Nat × Nat → Int × Nat × Nat
  | (year, month, day) =>
      if day < monthLength year month then (year, month, day + 1)
      else if month < 12 then (year, month + 1, 1)
      else (year + 1, 1, 1)

theorem monthLength_pos (year : Int) {month : Nat} (hmonth : 1 ≤ month) (hlast : month ≤ 12) :
    1 ≤ monthLength year month := by
  have hall : ∀ leap, ∀ place < 12, 1 ≤ (monthLengths leap).getD place 0 := by decide
  exact hall _ _ (by omega)

theorem IsDay.month_le {year : Int} {month day : Nat} (h : IsDay year month day) : month ≤ 12 := by
  obtain ⟨hmonth, hday, hlast⟩ := h
  refine Nat.not_lt.1 fun hlate => ?_
  have hlength : (monthLengths (isLeap year)).length ≤ month - 1 := Nat.le_sub_one_of_lt hlate
  have hnone : monthLength year month = 0 := by
    rw [monthLength, List.getD_eq_getElem?_getD, List.getElem?_eq_none hlength, Option.getD_none]
  omega

theorem daysBefore_add_monthLength (year : Int) {month : Nat} (hmonth : 1 ≤ month) :
    daysBefore (isLeap year) (month + 1) = daysBefore (isLeap year) month + monthLength year month := by
  obtain ⟨whole, rfl⟩ := Nat.exists_eq_add_of_le' hmonth
  exact daysIn_take_succ _ whole

theorem daysBefore_le (year : Int) (month : Nat) :
    (daysBefore (isLeap year) month : Int) ≤ yearStart (year + 1) - yearStart year := by
  rw [← daysIn_monthLengths]
  exact_mod_cast daysIn_take_le _ _

theorem daysBefore_year (year : Int) :
    (daysBefore (isLeap year) 13 : Int) = yearStart (year + 1) - yearStart year :=
  daysIn_monthLengths year

end Calendar

namespace Date

open Calendar

def civil (date : Date) : Int × Nat × Nat :=
  (date.year, date.monthDay)

/-- A day of the calendar is counted and named back. -/
theorem civil_ofCivil {year : Int} {month day : Nat} (h : IsDay year month day) :
    (ofCivil year month day).civil = (year, month, day) := by
  obtain ⟨hmonth, hday, hlast⟩ := h
  have hnext := daysBefore_add_monthLength year hmonth
  have hyearEnd := daysBefore_le year (month + 1)
  have hnumber : (ofCivil year month day).number =
      yearStart year + daysBefore (isLeap year) month + day - 1 := rfl
  have hyear : (ofCivil year month day).year = year := by
    refine Int.le_antisymm (Int.not_lt.1 fun hlate => ?_) (le_yearOf_iff.2 (by omega))
    have hbegun : yearStart (year + 1) ≤ (ofCivil year month day).number := le_yearOf_iff.1 hlate
    omega
  have hpassed : ((ofCivil year month day).number - yearStart year).toNat =
      daysIn ((monthLengths (isLeap year)).take (month - 1)) + (day - 1) := by
    have hbefore : daysBefore (isLeap year) month =
        daysIn ((monthLengths (isLeap year)).take (month - 1)) := rfl
    omega
  have hread : (ofCivil year month day).monthDay = (month, day) := by
    have hin : day - 1 < (monthLengths (isLeap year)).getD (month - 1) 0 := by
      rw [monthLength] at hlast
      omega
    rw [monthDay, hyear, hpassed, monthAndDay_eq hin]
    simp only [Prod.mk.injEq]
    omega
  rw [civil, hyear, hread]

theorem exists_ofCivil (date : Date) :
    ∃ year month day, IsDay year month day ∧ date = ofCivil year month day := by
  have hstart : yearStart date.year ≤ date.number := yearStart_yearOf_le date.number
  have hnext : date.number < yearStart (date.year + 1) := lt_yearStart_yearOf_succ date.number
  have hlast := daysIn_monthLengths date.year
  have hpassed : (date.number - yearStart date.year).toNat < daysIn (monthLengths (isLeap date.year)) := by
    omega
  obtain ⟨whole, day, hday, hsplit⟩ := exists_month hpassed
  refine ⟨date.year, whole + 1, day + 1, ⟨Nat.le_add_left _ _, Nat.le_add_left _ _, hday⟩, ?_⟩
  have hnumber : date.number = (ofCivil date.year (whole + 1) (day + 1)).number := by
    have hcount : (ofCivil date.year (whole + 1) (day + 1)).number = yearStart date.year +
        (daysIn ((monthLengths (isLeap date.year)).take whole) : Nat) + (day + 1 : Nat) - 1 := rfl
    omega
  exact congrArg Date.mk hnumber

/-- From each day to the next the calendar goes on by its rules. -/
theorem civil_succ (number : Int) : (⟨number + 1⟩ : Date).civil = dayAfter (⟨number⟩ : Date).civil := by
  obtain ⟨year, month, day, hday, hdate⟩ := exists_ofCivil ⟨number⟩
  have hnumber : number = yearStart year + daysBefore (isLeap year) month + day - 1 :=
    congrArg Date.number hdate
  have hnext := daysBefore_add_monthLength year hday.1
  have hmonth := hday.month_le
  rw [hdate, civil_ofCivil hday, dayAfter]
  split
  · have hafter : (⟨number + 1⟩ : Date) = ofCivil year month (day + 1) :=
      congrArg Date.mk (by push_cast; omega)
    rw [hafter]
    exact civil_ofCivil ⟨hday.1, Nat.le_add_left _ _, ‹_›⟩
  · have hlast : day = monthLength year month := Nat.le_antisymm hday.2.2 (Nat.not_lt.1 ‹_›)
    split
    · have hafter : (⟨number + 1⟩ : Date) = ofCivil year (month + 1) 1 :=
        congrArg Date.mk (by push_cast; omega)
      rw [hafter]
      exact civil_ofCivil ⟨Nat.le_add_left _ _, Nat.le_refl 1, monthLength_pos year (by omega) ‹_›⟩
    · obtain rfl : month = 12 := by omega
      have hlength : daysBefore (isLeap year) 13 = daysBefore (isLeap year) 12 + monthLength year 12 :=
        hnext
      have hyear := daysBefore_year year
      have hafter : (⟨number + 1⟩ : Date) = ofCivil (year + 1) 1 1 := by
        have hfirst : daysBefore (isLeap (year + 1)) 1 = 0 := rfl
        exact congrArg Date.mk (by push_cast [hfirst]; omega)
      rw [hafter]
      exact civil_ofCivil ⟨Nat.le_refl 1, Nat.le_refl 1, monthLength_pos _ (by decide) (by decide)⟩

end Date

namespace Calendar

/-- Names of days as the Gregorian calendar has them, before and after its first day alike. -/
structure IsGregorian (civil : Date → Int × Nat × Nat) : Prop where
  first : civil ⟨0⟩ = (1970, 1, 1)
  next : ∀ number, civil ⟨number + 1⟩ = dayAfter (civil ⟨number⟩)

theorem isGregorian_civil : IsGregorian Date.civil :=
  ⟨by decide, Date.civil_succ⟩

end Calendar

end SampleData
