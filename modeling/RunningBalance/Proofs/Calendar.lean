import Mathlib
import RunningBalance.Instant

/-!
# The days of the calendar

Every day lies in exactly one year (`le_yearOfDay_iff`) and in one month of it, so the date found
for a day number exists in the calendar (`exists?_ofDayNumber`) and has that number
(`dayNumber_ofDayNumber`). The years an instant may fall in are those between the first and the last
supported one (`isSupported_iff`).
-/

set_option autoImplicit false
set_option relaxedAutoImplicit false

namespace RunningBalance

namespace Date

/-! ### Years -/

theorem daysBeforeYear_succ (year : ℤ) :
    daysBeforeYear (year + 1) = daysBeforeYear year + ((monthLengths year).sum : ℕ) := by
  have hsum : (monthLengths year).sum = if isLeapYear year then 366 else 365 := by
    unfold monthLengths
    split <;> rfl
  rw [hsum]
  unfold daysBeforeYear isLeapYear
  split
  · next hleap =>
    simp only [Bool.and_eq_true, Bool.or_eq_true, decide_eq_true_eq] at hleap
    omega
  · next hleap =>
    simp only [Bool.and_eq_true, Bool.or_eq_true, decide_eq_true_eq] at hleap
    omega

theorem daysBeforeYear_mono {year later : ℤ} (h : year ≤ later) :
    daysBeforeYear year ≤ daysBeforeYear later := by
  unfold daysBeforeYear
  omega

/-- A day falls in the year found for it. -/
theorem yearOfDay_spec (day : ℤ) :
    daysBeforeYear (yearOfDay day) ≤ day ∧ day < daysBeforeYear (yearOfDay day + 1) := by
  have hlower : daysBeforeYear (day * 400 / 146097 - 1) ≤ day := by
    unfold daysBeforeYear
    omega
  have hupper : day < daysBeforeYear (day * 400 / 146097 + 1 + 1) := by
    unfold daysBeforeYear
    omega
  unfold yearOfDay
  dsimp only
  split
  · next h => exact ⟨hlower, by rwa [Int.sub_add_cancel]⟩
  · next h =>
    split
    · next h' => exact ⟨h', hupper⟩
    · next h' => exact ⟨Int.not_lt.1 h, Int.not_le.1 h'⟩

/-- A day falls in a year or later exactly when it is not before the start of the year. -/
theorem le_yearOfDay_iff {year day : ℤ} : year ≤ yearOfDay day ↔ daysBeforeYear year ≤ day := by
  obtain ⟨hstart, hend⟩ := yearOfDay_spec day
  constructor
  · intro h
    exact Int.le_trans (daysBeforeYear_mono h) hstart
  · intro h
    by_contra hlt
    have hnext := daysBeforeYear_mono (show yearOfDay day + 1 ≤ year by omega)
    omega

/-! ### Months -/

/-- A day of a year falls in one of its months: the days of the months before it and the days left
add up to it. -/
theorem splitMonths_spec {lengths : List ℕ} {day : ℕ} (h : day < lengths.sum) :
    ∃ length, lengths[(splitMonths lengths day).1]? = some length ∧
      (splitMonths lengths day).2 < length ∧
      (lengths.take (splitMonths lengths day).1).sum + (splitMonths lengths day).2 = day := by
  induction lengths generalizing day with
  | nil => simp at h
  | cons length later ih =>
    rw [splitMonths]
    split
    · next hlt => exact ⟨length, rfl, hlt, by simp⟩
    · next hge =>
      rw [List.sum_cons] at h
      obtain ⟨found, hfound, hrest, hsum⟩ := ih (show day - length < later.sum by omega)
      refine ⟨found, hfound, hrest, ?_⟩
      simp only [List.take_succ_cons, List.sum_cons]
      omega

/-- The days from the start of its year to a day. -/
theorem dayOfYear_lt (day : ℤ) :
    (day - daysBeforeYear (yearOfDay day)).toNat < (monthLengths (yearOfDay day)).sum := by
  obtain ⟨hstart, hend⟩ := yearOfDay_spec day
  rw [daysBeforeYear_succ] at hend
  omega

/-- The date found for a day number is in the calendar. -/
theorem exists?_ofDayNumber (number : ℤ) : (ofDayNumber number).exists? = true := by
  obtain ⟨length, hlength, hrest, -⟩ := splitMonths_spec (dayOfYear_lt (number + daysBeforeEpoch))
  have hmonth : (monthLengths (ofDayNumber number).year)[(ofDayNumber number).month - 1]? =
      some length :=
    hlength
  have hday : (ofDayNumber number).day ≤ length := hrest
  rw [exists?, hmonth]
  simp only [Bool.and_eq_true, decide_eq_true_eq]
  exact ⟨⟨Nat.le_add_left .., Nat.le_add_left ..⟩, hday⟩

/-- A date in the calendar has at most twelve months and 31 days. -/
theorem le_of_exists? {date : Date} (h : date.exists? = true) :
    date.month ≤ 12 ∧ date.day ≤ 31 := by
  have hlengths : ∀ length ∈ monthLengths date.year, length ≤ 31 := by
    unfold monthLengths
    split <;> decide
  rw [exists?, Bool.and_eq_true] at h
  obtain ⟨-, hday⟩ := h
  split at hday
  · next length hlength =>
    have hmonth : date.month - 1 < 12 := (List.getElem?_eq_some_iff.1 hlength).1
    have hle := hlengths length (List.mem_of_getElem? hlength)
    exact ⟨by omega, Nat.le_trans (of_decide_eq_true hday) hle⟩
  · cases hday

/-- The date found for a day number has that number. -/
theorem dayNumber_ofDayNumber (number : ℤ) : (ofDayNumber number).dayNumber = number := by
  obtain ⟨length, -, -, hsum⟩ := splitMonths_spec (dayOfYear_lt (number + daysBeforeEpoch))
  obtain ⟨hstart, -⟩ := yearOfDay_spec (number + daysBeforeEpoch)
  simp only [dayNumber, ofDayNumber, daysBeforeMonth, Nat.add_sub_cancel]
  rw [List.sum] at hsum
  omega

end Date

/-- An instant falls in a supported year exactly when its date does. -/
theorem Instant.isSupported_iff {instant : Instant} :
    instant.isSupported = true ↔
      firstYear ≤ instant.date.year ∧ instant.date.year ≤ lastYear := by
  have hyear : instant.date.year =
      Date.yearOfDay (instant.seconds / secondsPerDay + Date.daysBeforeEpoch) :=
    rfl
  have hlast : lastYear + 1 ≤ Date.yearOfDay
        (instant.seconds / secondsPerDay + Date.daysBeforeEpoch) ↔
      Date.daysBeforeYear (lastYear + 1) ≤ instant.seconds / secondsPerDay + Date.daysBeforeEpoch :=
    Date.le_yearOfDay_iff
  rw [isSupported, Bool.and_eq_true, decide_eq_true_eq, decide_eq_true_eq, hyear,
    Date.le_yearOfDay_iff]
  omega

end RunningBalance
