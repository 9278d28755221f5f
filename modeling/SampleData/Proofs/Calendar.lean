import SampleData.Calendar.Written

/-!
# Days and years

Every day falls in exactly one year: it is not before the first day of the year, and before the
first day of the next.
-/

namespace SampleData

namespace Calendar

theorem yearStart_mono {first second : Int} (h : first ≤ second) :
    yearStart first ≤ yearStart second := by
  simp only [yearStart]
  omega

theorem yearStart_yearOf_le (number : Int) : yearStart (yearOf number) ≤ number := by
  have hestimate : yearStart (400 * (number + 719162) / 146097) ≤ number := by
    simp only [yearStart]
    omega
  unfold yearOf
  dsimp only
  split
  · have hyear : 400 * (number + 719162) / 146097 + 1 - 1 = 400 * (number + 719162) / 146097 := by
      omega
    rw [hyear]
    exact hestimate
  · split <;> omega

theorem lt_yearStart_yearOf_succ (number : Int) : number < yearStart (yearOf number + 1) := by
  have hestimate : number < yearStart (400 * (number + 719162) / 146097 + 1 + 1 + 1) := by
    simp only [yearStart]
    omega
  unfold yearOf
  dsimp only
  split
  · have hyear : 400 * (number + 719162) / 146097 + 1 - 1 + 1 =
        400 * (number + 719162) / 146097 + 1 := by omega
    rw [hyear]
    assumption
  · split
    · exact hestimate
    · omega

theorem le_yearOf_iff {year number : Int} : year ≤ yearOf number ↔ yearStart year ≤ number := by
  have hbegun := yearStart_yearOf_le number
  have hended := lt_yearStart_yearOf_succ number
  constructor
  · intro h
    exact Int.le_trans (yearStart_mono h) hbegun
  · intro h
    rcases Int.lt_or_le (yearOf number) year with hlater | hin
    · have hnext : yearStart (yearOf number + 1) ≤ yearStart year := yearStart_mono hlater
      omega
    · exact hin

theorem yearOf_mono {first second : Int} (h : first ≤ second) : yearOf first ≤ yearOf second :=
  le_yearOf_iff.2 (Int.le_trans (yearStart_yearOf_le first) h)

end Calendar

namespace Date

open Calendar

def HasFourDigits (date : Date) : Prop :=
  0 ≤ date.year ∧ date.year ≤ lastYear

theorem midnight_date (date : Date) : date.midnight.date = date := by
  have hnumber : date.number * daySeconds / daySeconds = date.number := by
    simp only [daySeconds]
    omega
  unfold midnight Instant.date
  rw [hnumber]

theorem decadeStart?_eq_some {year : Int} {start : Date} (h : decadeStart? year = some start) :
    start.number = yearStart (year - year % 10) := by
  unfold decadeStart? newYear? at h
  split at h
  · cases h
    rfl
  · cases h

/-- A decade begins before each of its days, and not before the first year if they are not. -/
theorem decadeStart_le {date start : Date} (h : decadeStart? date.year = some start) :
    start.number ≤ date.number := by
  rw [decadeStart?_eq_some h]
  have hyear : date.year - date.year % 10 ≤ date.year := by omega
  exact le_yearOf_iff.1 hyear

theorem decadeStart_year_nonneg {date start : Date} (h : decadeStart? date.year = some start)
    (hyear : 0 ≤ date.year) : 0 ≤ start.year := by
  refine le_yearOf_iff.2 ?_
  rw [decadeStart?_eq_some h]
  exact yearStart_mono (by omega)

theorem HasFourDigits.of_decade {date start day : Date} (hdate : date.HasFourDigits)
    (hstart : decadeStart? date.year = some start) (hafter : start.number ≤ day.number)
    (hbefore : day.number ≤ date.number) : day.HasFourDigits := by
  have hlow : start.year ≤ day.year := yearOf_mono hafter
  have hhigh : day.year ≤ date.year := yearOf_mono hbefore
  have hzero : 0 ≤ start.year := decadeStart_year_nonneg hstart hdate.1
  exact ⟨Int.le_trans hzero hlow, Int.le_trans hhigh hdate.2⟩

end Date

theorem Instant.exists_written {instant : Instant} (h : instant.date.HasFourDigits) :
    ∃ text, instant.written = .ok text := by
  refine ⟨String.ofList instant.writtenChars, ?_⟩
  unfold written
  exact if_pos h

end SampleData
