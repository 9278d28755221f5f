import SampleData.Proofs.Calendar.Days
import SampleData.Proofs.Synthesis

/-!
# Values of this decade

A moment or a date of the current decade is drawn from its first day to now, both included, and each
of them can be drawn.  There is none in the first nine years of the calendar, whose decade begins
before it.
-/

namespace SampleData

/-! ## Order in time -/

instance : LE Date :=
  ⟨fun first second => first.number ≤ second.number⟩

/-- Within a second the nanoseconds count. -/
instance : LE Instant :=
  ⟨fun first second => first.seconds < second.seconds ∨
    first.seconds = second.seconds ∧ first.nanos ≤ second.nanos⟩

/--
A whole second is not behind an instant exactly when it is not behind the second of the instant.
-/
theorem Instant.whole_le_iff {seconds : Int} {instant : Instant} :
    ⟨seconds, 0⟩ ≤ instant ↔ seconds ≤ instant.seconds := by
  change seconds < instant.seconds ∨ seconds = instant.seconds ∧ 0 ≤ instant.nanos ↔ _
  omega

/-! ## The start of a decade -/

namespace Calendar

/-- In each year of the calendar but the first nine the decade has a first day. -/
theorem decadeStart?_of_whole {year : Int} (hwhole : -9991 < year) (hlast : year ≤ 9999) :
    Date.decadeStart? year = some (Date.ofCivil (year - year % 10) 1 1) := by
  have hknown : firstYear ≤ year - year % 10 ∧ year - year % 10 ≤ lastYear := by
    simp only [firstYear, lastYear]
    omega
  have hday : Date.ofCivil (year - year % 10) 1 1 = ⟨yearStart (year - year % 10)⟩ := by
    have hbefore : daysBefore (isLeap (year - year % 10)) 1 = 0 := rfl
    simp [Date.ofCivil, hbefore]
  rw [hday]
  exact if_pos hknown

theorem decadeStart?_of_broken {year : Int} (hbroken : year ≤ -9991) :
    Date.decadeStart? year = none := by
  refine if_neg fun hknown => ?_
  have hfirst : -9999 ≤ year - year % 10 := hknown.1
  omega

theorem yearStart_add_ten_le (year : Int) : yearStart (year + 10) ≤ yearStart year + 3654 := by
  simp only [yearStart]
  omega

end Calendar

namespace Date

open Calendar

theorem decade_span {date start : Date} (h : decadeStart? date.year = some start) :
    start.number ≤ date.number ∧ date.number < start.number + 3654 := by
  have hstart := decadeStart?_eq_some h
  have hyear : date.number < yearStart (date.year + 1) := lt_yearStart_yearOf_succ date.number
  have hend : yearStart (date.year + 1) ≤ yearStart (date.year - date.year % 10 + 10) :=
    yearStart_mono (by omega)
  have hdays := yearStart_add_ten_le (date.year - date.year % 10)
  exact ⟨decadeStart_le h, by omega⟩

end Date

namespace Synthesis

open Draws

variable {α : Type}

/-! ## Drawn once -/

/-- A sampler that never fails, takes one number, and gives all of a range and nothing else. -/
structure DrawnOnce (sampler : Sampler (Except Failure α)) (range : α → Prop) : Prop where
  drawn : ∀ draws, ∃ made, sampler draws = (.ok made, (next draws).2) ∧ range made
  reached : ∀ made, range made → ∃ number, ∀ draws, sampler (draws.after number) = (.ok made, draws)

theorem drawnOnce_between {low high : Int} (hle : low ≤ high)
    (hsmall : (high - low + 1).toNat ≤ wordSize) (form : Int → α) :
    DrawnOnce (do
      let drawn ← between low high
      pure (.ok (form drawn))) fun made => ∃ n, low ≤ n ∧ n ≤ high ∧ form n = made where
  drawn := by
    intro draws
    obtain ⟨hlow, hhigh⟩ := between_mem hle draws
    refine ⟨form (between low high draws).1, ?_, _, hlow, hhigh, rfl⟩
    rw [bind_apply, pure_apply, between_of_le hsmall]
  reached := by
    rintro _ ⟨n, hlow, hhigh, rfl⟩
    refine ⟨UInt64.ofNat (n - low).toNat, fun draws => ?_⟩
    rw [bind_apply, pure_apply, between_after hsmall hlow hhigh]

theorem DrawnOnce.congr {sampler : Sampler (Except Failure α)} {range other : α → Prop}
    (h : DrawnOnce sampler range) (hsame : ∀ made, range made ↔ other made) : DrawnOnce sampler other := by
  obtain rfl : range = other := funext fun made => propext (hsame made)
  exact h

theorem span_le_wordSize {low high : Int} (h : high < low + 3654 * 86400) :
    (high - low + 1).toNat ≤ wordSize := by
  have hword : 3654 * 86400 ≤ wordSize := by decide
  omega

/-! ## Of this decade -/

section

variable {now : Instant} {start : Date} (hstart : Date.decadeStart? now.date.year = some start)
include hstart

theorem decade_le : start.midnight ≤ now ∧ start ≤ now.date := by
  have hday : start.number ≤ now.seconds / Calendar.daySeconds := (Date.decade_span hstart).1
  refine ⟨Instant.whole_le_iff.2 ?_, hday⟩
  simp only [Calendar.daySeconds] at hday ⊢
  omega

theorem dateTimeThisDecade_eq :
    dateTimeThisDecade now = (do
      let seconds ← between start.midnight.seconds now.seconds
      pure (.ok ⟨seconds, 0⟩)) := by
  unfold dateTimeThisDecade
  rw [hstart]

theorem dateThisDecade_eq :
    dateThisDecade now = (do
      let number ← between start.number now.date.number
      pure (.ok ⟨number⟩)) := by
  unfold dateThisDecade
  rw [hstart]

theorem drawnOnce_dateTimeThisDecade :
    DrawnOnce (dateTimeThisDecade now) fun instant =>
      instant.nanos = 0 ∧ start.midnight ≤ instant ∧ instant ≤ now := by
  have hle : start.midnight.seconds ≤ now.seconds := Instant.whole_le_iff.1 (decade_le hstart).1
  have hspan : now.seconds < start.midnight.seconds + 3654 * 86400 := by
    have hdays : now.seconds / Calendar.daySeconds < start.number + 3654 := (Date.decade_span hstart).2
    simp only [Date.midnight, Calendar.daySeconds] at hdays ⊢
    omega
  have hdrawn := drawnOnce_between hle (span_le_wordSize hspan) fun seconds => (⟨seconds, 0⟩ : Instant)
  rw [dateTimeThisDecade_eq hstart]
  refine hdrawn.congr fun instant => ⟨?_, ?_⟩
  · rintro ⟨seconds, hlow, hhigh, rfl⟩
    exact ⟨rfl, Instant.whole_le_iff.2 hlow, Instant.whole_le_iff.2 hhigh⟩
  · rintro ⟨hwhole, hlow, hhigh⟩
    obtain ⟨seconds, nanos⟩ := instant
    obtain rfl : nanos = 0 := hwhole
    exact ⟨seconds, Instant.whole_le_iff.1 hlow, Instant.whole_le_iff.1 hhigh, rfl⟩

theorem drawnOnce_dateThisDecade :
    DrawnOnce (dateThisDecade now) fun day => start ≤ day ∧ day ≤ now.date := by
  obtain ⟨hle, hspan⟩ := Date.decade_span hstart
  have hdrawn := drawnOnce_between hle (span_le_wordSize (by omega)) Date.mk
  rw [dateThisDecade_eq hstart]
  refine hdrawn.congr fun day => ⟨?_, ?_⟩
  · rintro ⟨number, hlow, hhigh, rfl⟩
    exact ⟨hlow, hhigh⟩
  · rintro ⟨hlow, hhigh⟩
    exact ⟨day.number, hlow, hhigh, rfl⟩

end

/-- In the years whose decade the calendar does not have whole nothing is drawn. -/
theorem thisDecade_of_broken {now : Instant} (h : now.date.year ≤ -9991) (draws : Draws) :
    dateTimeThisDecade now draws = (.error .yearOutOfRange, draws) ∧
      dateThisDecade now draws = (.error .yearOutOfRange, draws) := by
  have hnone := Calendar.decadeStart?_of_broken h
  unfold dateTimeThisDecade dateThisDecade
  rw [hnone]
  exact ⟨rfl, rfl⟩

/--
By the Gregorian calendar, and for a clock in any of its years: through the year -9991 there is
neither a moment nor a date of the decade, and nothing is drawn.  In a later year both are drawn with
one number, the moment from the whole seconds between the midnight that the decade began with and now,
the date from the days between its first day and today, and each of these comes out for some number.
-/
theorem thisDecade_drawn {now : Instant} (hlast : now.date.year ≤ 9999) :
    Calendar.IsGregorian Date.civil ∧
      (now.date.year ≤ -9991 → ∀ draws,
        dateTimeThisDecade now draws = (.error .yearOutOfRange, draws) ∧
          dateThisDecade now draws = (.error .yearOutOfRange, draws)) ∧
      (-9991 < now.date.year →
        ∃ start : Date, start.civil = (now.date.year - now.date.year % 10, 1, 1) ∧
          start.midnight ≤ now ∧ start ≤ now.date ∧
          DrawnOnce (dateTimeThisDecade now)
            (fun instant => instant.nanos = 0 ∧ start.midnight ≤ instant ∧ instant ≤ now) ∧
          DrawnOnce (dateThisDecade now) (fun day => start ≤ day ∧ day ≤ now.date)) := by
  refine ⟨Calendar.isGregorian_civil, thisDecade_of_broken, fun hwhole => ?_⟩
  have hstart := Calendar.decadeStart?_of_whole hwhole hlast
  obtain ⟨hnow, htoday⟩ := decade_le hstart
  have hfirst : Calendar.IsDay (now.date.year - now.date.year % 10) 1 1 :=
    ⟨Nat.le_refl 1, Nat.le_refl 1, Calendar.monthLength_pos _ (Nat.le_refl 1) (by decide)⟩
  exact ⟨_, Date.civil_ofCivil hfirst, hnow, htoday, drawnOnce_dateTimeThisDecade hstart,
    drawnOnce_dateThisDecade hstart⟩

/-- A little into the year -5 the decade is the one that began with the year -10. -/
theorem thisDecade_drawn_early :
    let now : Instant := ⟨-62300000000, 5⟩
    now.date.year = -5 ∧
      ∃ start : Date, start.civil = (-10, 1, 1) ∧ start.midnight ≤ now ∧
        DrawnOnce (dateThisDecade now) (fun day => start ≤ day ∧ day ≤ now.date) := by
  intro now
  have hyear : now.date.year = -5 := by decide
  obtain ⟨start, hcivil, hnow, -, -, hdate⟩ :=
    (@thisDecade_drawn now (by decide)).2.2 (by decide)
  rw [hyear] at hcivil
  exact ⟨hyear, start, hcivil, hnow, hdate⟩

end Synthesis

end SampleData
