import RunningBalance.Proofs.Calendar

/-!
# The succession of days

Here the calendar is described without day numbers: which days there are, by the lengths of the
months and the rule of leap years (`Date.InCalendar`), and how they follow each other, by year,
month and day (`Date.Before`). Day numbers count the days of this calendar in this order
(`dayNumber_lt_iff`) and leave none out, so that the day that follows another directly has the next
number (`isNext_iff`).
-/

set_option autoImplicit false
set_option relaxedAutoImplicit false

namespace RunningBalance.Date

attribute [ext] Date

/-- Every fourth year is a leap year, but of the full hundreds only every fourth. -/
def IsLeapYear (year : ℤ) : Prop :=
  4 ∣ year ∧ (100 ∣ year → 400 ∣ year)

instance (year : ℤ) : Decidable (IsLeapYear year) :=
  inferInstanceAs (Decidable (_ ∧ _))

/-- The number of days of a month. -/
def lengthOfMonth (year : ℤ) (month : ℕ) : ℕ :=
  if month = 2 then if IsLeapYear year then 29 else 28
  else if month ∈ [4, 6, 9, 11] then 30
  else 31

/-- A day of the proleptic Gregorian calendar. -/
structure InCalendar (date : Date) : Prop where
  one_le_month : 1 ≤ date.month
  month_le : date.month ≤ 12
  one_le_day : 1 ≤ date.day
  day_le : date.day ≤ lengthOfMonth date.year date.month

/-- The order of dates by year, month and day. -/
def Before (date other : Date) : Prop :=
  date.year < other.year ∨ date.year = other.year ∧
    (date.month < other.month ∨ date.month = other.month ∧ date.day < other.day)

/-- The day of the calendar that follows another one directly. -/
structure IsNext (date next : Date) : Prop where
  inCalendar : date.InCalendar
  inCalendar_next : next.InCalendar
  before : date.Before next
  not_between : ∀ other, other.InCalendar → date.Before other → ¬other.Before next

/-! ### The days there are -/

section Calendar

variable {date other : Date} {year : ℤ} {month : ℕ}

theorem isLeapYear_iff : isLeapYear year = true ↔ IsLeapYear year := by
  simp only [isLeapYear, IsLeapYear, Bool.and_eq_true, Bool.or_eq_true, decide_eq_true_eq]
  omega

theorem getElem?_monthLengths (hmonth : 1 ≤ month) (hmonth' : month ≤ 12) :
    (monthLengths year)[month - 1]? = some (lengthOfMonth year month) := by
  by_cases hleap : IsLeapYear year
  · simp only [monthLengths, lengthOfMonth, isLeapYear_iff, hleap, if_true]
    interval_cases month <;> rfl
  · simp only [monthLengths, lengthOfMonth, isLeapYear_iff, hleap, if_false]
    interval_cases month <;> rfl

theorem exists?_iff : date.exists? = true ↔ date.InCalendar := by
  constructor
  · intro hexists
    have hmonth' := (le_of_exists? hexists).1
    rw [exists?, Bool.and_eq_true, Bool.and_eq_true, decide_eq_true_eq, decide_eq_true_eq]
      at hexists
    obtain ⟨⟨hmonth, hday⟩, hlength⟩ := hexists
    rw [getElem?_monthLengths hmonth hmonth'] at hlength
    exact ⟨hmonth, hmonth', hday, of_decide_eq_true hlength⟩
  · rintro ⟨hmonth, hmonth', hday, hday'⟩
    simp only [exists?, getElem?_monthLengths hmonth hmonth', hmonth, hday, hday', decide_true,
      Bool.and_true]

/-! ### The order of their numbers -/

theorem before_trichotomy (date other : Date) :
    date.Before other ∨ date = other ∨ other.Before date := by
  simp only [Before, Date.ext_iff]
  omega

theorem daysBeforeMonth_eq_sum :
    daysBeforeMonth year month = ((monthLengths year).take (month - 1)).sum :=
  rfl

theorem daysBeforeMonth_mono {later : ℕ} (h : month ≤ later) :
    daysBeforeMonth year month ≤ daysBeforeMonth year later :=
  (List.take_sublist_take_left (Nat.sub_le_sub_right h 1)).sum_le_sum fun _ _ ↦ Nat.zero_le _

theorem daysBeforeMonth_succ (hmonth : 1 ≤ month) (hmonth' : month ≤ 12) :
    daysBeforeMonth year (month + 1) = daysBeforeMonth year month + lengthOfMonth year month := by
  obtain ⟨before, rfl⟩ := Nat.exists_eq_add_of_le' hmonth
  have hlength : (monthLengths year)[before]? = some (lengthOfMonth year (before + 1)) :=
    getElem?_monthLengths hmonth hmonth'
  rw [daysBeforeMonth_eq_sum, daysBeforeMonth_eq_sum, Nat.add_sub_cancel, Nat.add_sub_cancel,
    List.take_add_one, hlength, List.sum_append]
  rfl

/-- A day of a month is numbered before the next month. -/
theorem InCalendar.dayOfYear_lt (hdate : date.InCalendar) :
    daysBeforeMonth date.year date.month + (date.day - 1) <
      daysBeforeMonth date.year (date.month + 1) := by
  have hday := hdate.one_le_day
  have hday' := hdate.day_le
  rw [daysBeforeMonth_succ hdate.one_le_month hdate.month_le]
  omega

/-- A day of a year is numbered between the starts of its year and of the next. -/
theorem InCalendar.dayNumber_mem (hdate : date.InCalendar) :
    daysBeforeYear date.year ≤ date.dayNumber + daysBeforeEpoch ∧
      date.dayNumber + daysBeforeEpoch < daysBeforeYear (date.year + 1) := by
  have hday := hdate.dayOfYear_lt
  have hmonth : daysBeforeMonth date.year (date.month + 1) ≤ daysBeforeMonth date.year 13 :=
    daysBeforeMonth_mono (Nat.succ_le_succ hdate.month_le)
  have hyear : daysBeforeMonth date.year 13 = (monthLengths date.year).sum := rfl
  rw [daysBeforeYear_succ, dayNumber]
  omega

/-- Days are numbered in their order. -/
theorem Before.dayNumber_lt (hbefore : date.Before other) (hdate : date.InCalendar)
    (hother : other.InCalendar) : date.dayNumber < other.dayNumber := by
  rcases hbefore with hyear | ⟨hyear, hmonth | ⟨hmonth, hday⟩⟩
  · have hnext := daysBeforeYear_mono (show date.year + 1 ≤ other.year from hyear)
    have hdate := hdate.dayNumber_mem
    have hother := hother.dayNumber_mem
    omega
  · have hnext : daysBeforeMonth other.year (date.month + 1) ≤
        daysBeforeMonth other.year other.month :=
      daysBeforeMonth_mono hmonth
    have hdate := hdate.dayOfYear_lt
    rw [hyear] at hdate
    rw [dayNumber, dayNumber, hyear]
    omega
  · have hpositive := hdate.one_le_day
    rw [dayNumber, dayNumber, hyear, hmonth]
    omega

theorem dayNumber_lt_iff (hdate : date.InCalendar) (hother : other.InCalendar) :
    date.dayNumber < other.dayNumber ↔ date.Before other := by
  refine ⟨fun hlt ↦ ?_, fun hbefore ↦ hbefore.dayNumber_lt hdate hother⟩
  rcases before_trichotomy date other with hbefore | rfl | hafter
  · exact hbefore
  · exact absurd hlt (lt_irrefl _)
  · exact absurd hlt (hafter.dayNumber_lt hother hdate).asymm

theorem dayNumber_inj (hdate : date.InCalendar) (hother : other.InCalendar) :
    date.dayNumber = other.dayNumber ↔ date = other := by
  refine ⟨fun heq ↦ ?_, congrArg dayNumber⟩
  rcases before_trichotomy date other with hbefore | rfl | hafter
  · exact absurd heq (hbefore.dayNumber_lt hdate hother).ne
  · rfl
  · exact absurd heq (hafter.dayNumber_lt hother hdate).ne'

theorem inCalendar_ofDayNumber (number : ℤ) : (ofDayNumber number).InCalendar :=
  exists?_iff.1 (exists?_ofDayNumber number)

/-- The day that follows another one directly has the next number. -/
theorem isNext_iff {next : Date} :
    date.IsNext next ↔
      date.InCalendar ∧ next.InCalendar ∧ next.dayNumber = date.dayNumber + 1 := by
  constructor
  · rintro ⟨hdate, hnext, hbefore, hbetween⟩
    refine ⟨hdate, hnext, ?_⟩
    -- Otherwise the day with the next number would lie between the two.
    have hfollowing := inCalendar_ofDayNumber (date.dayNumber + 1)
    have hafter : date.Before (ofDayNumber (date.dayNumber + 1)) := by
      rw [← dayNumber_lt_iff hdate hfollowing, dayNumber_ofDayNumber]
      omega
    have hnot := hbetween _ hfollowing hafter
    rw [← dayNumber_lt_iff hfollowing hnext, dayNumber_ofDayNumber] at hnot
    have hlt := hbefore.dayNumber_lt hdate hnext
    omega
  · rintro ⟨hdate, hnext, hnumber⟩
    refine ⟨hdate, hnext, ?_, fun other hother hafter hbefore ↦ ?_⟩
    · rw [← dayNumber_lt_iff hdate hnext]
      omega
    · have hlt := hafter.dayNumber_lt hdate hother
      have hlt' := hbefore.dayNumber_lt hother hnext
      omega

/-- The calendar does not end. -/
theorem InCalendar.exists_isNext (hdate : date.InCalendar) : ∃ next, date.IsNext next :=
  ⟨ofDayNumber (date.dayNumber + 1),
    isNext_iff.2 ⟨hdate, inCalendar_ofDayNumber _, dayNumber_ofDayNumber _⟩⟩

end Calendar

end RunningBalance.Date
