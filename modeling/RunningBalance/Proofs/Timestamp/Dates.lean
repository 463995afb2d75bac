import RunningBalance.Proofs.Calendar.Succession
import RunningBalance.Proofs.Decimal.Order
import RunningBalance.Proofs.Instant
import RunningBalance.Proofs.Timestamp.Written

/-!
# Bare dates and the order of timestamps

A bare date is read as the midnight that starts its day, with and without dashes
(`read?_dateText`), and a timestamp of full width is read exactly if the calendar has its day and
the day its time (`read?_text_eq_some_iff`). Both texts and instants stand in the order of the
numbers written, leap seconds included (`text_lt_iff`, `instant_lt_iff`). `dates_in_order` puts this
together.
-/

set_option autoImplicit false
set_option relaxedAutoImplicit false

namespace RunningBalance

/-- The numbers of a date fit in four, two and two digits. -/
structure Date.Fits (date : Date) : Prop where
  year_nonneg : 0 ≤ date.year
  year_le : date.year ≤ 9999
  month_lt : date.month < 100
  day_lt : date.day < 100

/-- A year of four digits is supported. -/
theorem Date.Fits.year_mem {date : Date} (hdate : date.Fits) :
    Instant.firstYear ≤ date.year ∧ date.year ≤ Instant.lastYear :=
  ⟨le_trans (by decide) hdate.year_nonneg, hdate.year_le.trans (by decide)⟩

namespace Timestamp

/-- A date in four, two and two digits, with a mark between them. -/
def dateText (mark : List Char) (date : Date) : List Char :=
  Decimal.padded 4 date.year.toNat ++ (mark ++
    (Decimal.padded 2 date.month ++ (mark ++ Decimal.padded 2 date.day)))

/-- The mark in a bare date, and the items that read the date. -/
inductive IsDateForm : List Char → List Item → Prop
  | extended : IsDateForm ['-'] extendedDate
  | basic : IsDateForm [] basicDate

/-- A date and a time of day; midnight where no time is given. -/
structure Stamp where
  date : Date
  hour : ℕ := 0
  minute : ℕ := 0
  second : ℕ := 0

namespace Stamp

/-- The time of day in two digits each, after the letter T. -/
def clockText (stamp : Stamp) : List Char :=
  'T' :: (Decimal.padded 2 stamp.hour ++ ':' :: (Decimal.padded 2 stamp.minute ++
    ':' :: Decimal.padded 2 stamp.second))

/-- The timestamp of full width. -/
def text (stamp : Stamp) : String :=
  String.ofList (dateText ['-'] stamp.date ++ stamp.clockText ++ ['Z'])

/-- The numbers fit in the digits of a timestamp of full width. -/
structure Fits (stamp : Stamp) : Prop where
  date : stamp.date.Fits
  hour_lt : stamp.hour < 100
  minute_lt : stamp.minute < 100
  second_lt : stamp.second < 100

/-- There is such a time: a day of the calendar and a time of the day, in which a leap second may
end any minute. -/
structure IsProper (stamp : Stamp) : Prop where
  inCalendar : stamp.date.InCalendar
  hour_lt : stamp.hour < 24
  minute_lt : stamp.minute < 60
  second_le : stamp.second ≤ 60

/-- The order of timestamps by their numbers. -/
def Before (stamp other : Stamp) : Prop :=
  stamp.date.Before other.date ∨ stamp.date = other.date ∧
    (stamp.hour < other.hour ∨ stamp.hour = other.hour ∧
      (stamp.minute < other.minute ∨ stamp.minute = other.minute ∧ stamp.second < other.second))

def parts (stamp : Stamp) : Parts where
  year := stamp.date.year
  month := stamp.date.month
  day := stamp.date.day
  hour := stamp.hour
  minute := stamp.minute
  second := stamp.second

/-- The instant of a time. -/
def instant (stamp : Stamp) : Instant where
  seconds := stamp.parts.seconds
  nanos := if stamp.second = 60 then Instant.nanosPerSecond else 0

end Stamp

/-! ### Reading -/

section Reading

variable {date : Date} {stamp : Stamp} {mark : List Char} {items : List Item}

theorem IsDateForm.layout_mem (hform : IsDateForm mark items) :
    ({ items } : Layout) ∈ layouts := by
  cases hform <;> decide

theorem readItems?_dateText (hform : IsDateForm mark items) (hdate : date.Fits) (parts : Parts)
    (rest : List Char) :
    readItems? items parts (dateText mark date ++ rest) =
      some ({ parts with year := date.year, month := date.month, day := date.day }, rest) := by
  have hyear (rest : List Char) :
      readItem? parts (Decimal.padded 4 date.year.toNat ++ rest) (.number .year) =
        some ({ parts with year := date.year }, rest) := by
    have hle := hdate.year_le
    have hread : readItem? parts (Decimal.padded 4 date.year.toNat ++ rest) (.number .year) =
        some (parts.set .year date.year.toNat, rest) :=
      readItem?_padded .year rfl (by omega)
    rwa [Parts.set, Int.toNat_of_nonneg hdate.year_nonneg] at hread
  cases hform <;>
    simp only [dateText, List.append_assoc, List.cons_append, List.nil_append, extendedDate,
      basicDate, readItems?, hyear, readItem?_char, readItem?_twoDigits .month rfl hdate.month_lt,
      readItem?_twoDigits .day rfl hdate.day_lt, Parts.set, Int.toNat_natCast]

theorem isBlank_of_mem_padded {width n : ℕ} :
    ∀ c ∈ Decimal.padded width n, Text.isBlank c = false :=
  fun _ hc ↦ isBlank_of_isDigit (Decimal.isDigit_of_mem_padded hc)

theorem IsDateForm.isBlank_of_mem_dateText (hform : IsDateForm mark items) :
    ∀ c ∈ dateText mark date, Text.isBlank c = false := by
  have hmark : ∀ c ∈ mark, Text.isBlank c = false := by
    cases hform with
    | extended => exact List.forall_mem_singleton.2 (by decide)
    | basic => exact List.forall_mem_nil _
  simp only [dateText, List.forall_mem_append]
  exact ⟨isBlank_of_mem_padded, hmark, isBlank_of_mem_padded, hmark, isBlank_of_mem_padded⟩

theorem readItems?_clockText (hstamp : stamp.Fits) (parts : Parts) :
    readItems? (.oneOf ['T'] :: extendedSecond) parts stamp.clockText =
      some ({ parts with hour := stamp.hour, minute := stamp.minute, second := stamp.second },
        []) := by
  have hsecond (parts : Parts) :
      readItem? parts (Decimal.padded 2 stamp.second ++ []) (.number .second) =
        some (parts.set .second stamp.second, []) :=
    readItem?_twoDigits .second rfl hstamp.second_lt
  simp only [List.append_nil] at hsecond
  simp only [Stamp.clockText, extendedSecond, extendedMinute, List.cons_append, List.nil_append,
    readItems?, readItem?_char, readItem?_twoDigits .hour rfl hstamp.hour_lt,
    readItem?_twoDigits .minute rfl hstamp.minute_lt, hsecond, Parts.set, Int.toNat_natCast,
    readItem?_fraction_of_startsOff Text.startsOff_nil]

/-- A timestamp of full width is read as its numbers. -/
theorem read?_text (hstamp : stamp.Fits) : read? stamp.text = stamp.parts.instant? := by
  have hlayout : extendedLayout ∈ layouts := by decide
  have htrim : Text.trim stamp.text.toList = stamp.text.toList := by
    have hzulu : ∀ c ∈ ['Z'], Text.isBlank c = false := List.forall_mem_singleton.2 (by decide)
    have hclock : ∀ c ∈ stamp.clockText, Text.isBlank c = false := by
      simp only [Stamp.clockText, List.forall_mem_append, List.forall_mem_cons]
      exact ⟨by decide, isBlank_of_mem_padded, by decide, isBlank_of_mem_padded, by decide,
        isBlank_of_mem_padded⟩
    rw [Stamp.text, String.toList_ofList]
    refine Text.trim_of_forall (List.forall_mem_append.2 ⟨List.forall_mem_append.2 ⟨?_, hclock⟩,
      hzulu⟩)
    exact IsDateForm.extended.isBlank_of_mem_dateText
  have hbody : extendedLayout.body stamp.text.toList =
      dateText ['-'] stamp.date ++ stamp.clockText := by
    rw [Layout.body, Stamp.text, String.toList_ofList, extendedLayout, if_pos rfl,
      dropZulu_append (.inl rfl)]
  refine read?_eq_of_parts? hlayout ?_
  rw [htrim, Layout.parts?_eq_some_iff, hbody]
  exact readItems?_append_items (readItems?_dateText .extended hstamp.date {} stamp.clockText)
    (readItems?_clockText hstamp _)

/-- With a date of its width a midnight has its width. -/
theorem fits_midnight (hdate : date.Fits) : ({ date } : Stamp).Fits :=
  ⟨hdate, Nat.succ_pos 99, Nat.succ_pos 99, Nat.succ_pos 99⟩

/-- A bare date is read as its midnight. -/
theorem read?_dateText (hform : IsDateForm mark items) (hdate : date.Fits) :
    read? (String.ofList (dateText mark date)) = read? ({ date } : Stamp).text := by
  have hread := readItems?_dateText hform hdate {} []
  rw [List.append_nil] at hread
  rw [read?_text (fits_midnight hdate)]
  refine read?_eq_of_parts? hform.layout_mem ?_
  rw [String.toList_ofList, Text.trim_of_forall hform.isBlank_of_mem_dateText,
    Layout.parts?_eq_some_iff]
  exact hread

end Reading

/-! ### Instants -/

section Instants

variable {date : Date} {stamp other : Stamp}

/-- A time is as many seconds after the start of its day as its numbers say, where a leap second
counts as the one it continues. -/
theorem Stamp.seconds_instant (stamp : Stamp) :
    stamp.instant.seconds = stamp.date.dayNumber * 86400 +
      (3600 * stamp.hour + 60 * stamp.minute + min stamp.second 59 : ℕ) :=
  sub_zero _

theorem isProper_parts (hstamp : stamp.Fits) :
    stamp.parts.isProper = true ↔ stamp.IsProper := by
  have hoffset : -Instant.secondsPerDay < 0 ∧ 0 < Instant.secondsPerDay := by decide
  have hdate : stamp.parts.date.exists? = true ↔ stamp.date.InCalendar := Date.exists?_iff
  simp only [Parts.isProper, Bool.and_eq_true, decide_eq_true_eq, hdate]
  constructor
  · rintro ⟨⟨⟨⟨⟨⟨-, hday⟩, hhour⟩, hminute⟩, hsecond⟩, -⟩, -⟩
    exact ⟨hday, hhour, hminute, hsecond⟩
  · rintro ⟨hday, hhour, hminute, hsecond⟩
    exact ⟨⟨⟨⟨⟨⟨hstamp.date.year_mem, hday⟩, hhour⟩, hminute⟩, hsecond⟩, hoffset.1⟩, hoffset.2⟩

theorem Stamp.IsProper.isSupported (hproper : stamp.IsProper) (hstamp : stamp.Fits) :
    stamp.instant.isSupported = true := by
  have hhour := hproper.hour_lt
  have hminute := hproper.minute_lt
  have hday : stamp.instant.seconds / Instant.secondsPerDay = stamp.date.dayNumber := by
    rw [stamp.seconds_instant, Instant.secondsPerDay]
    omega
  obtain ⟨hstart, hend⟩ := hproper.inCalendar.dayNumber_mem
  obtain ⟨hfirst, hlast⟩ := hstamp.date.year_mem
  have hfirst := Date.daysBeforeYear_mono hfirst
  have hlast := Date.daysBeforeYear_mono (Int.add_le_add_right hlast 1)
  rw [Instant.isSupported, hday, Bool.and_eq_true, decide_eq_true_eq, decide_eq_true_eq]
  omega

/-- A timestamp of full width denotes its time, if there is such a time. -/
theorem instant?_parts (hstamp : stamp.Fits) {instant : Instant} :
    stamp.parts.instant? = some instant ↔ stamp.IsProper ∧ instant = stamp.instant := by
  have hinstant : ({
      seconds := stamp.parts.seconds
      nanos := stamp.parts.nanos + if stamp.parts.second = 60 then Instant.nanosPerSecond else 0 } :
        Instant) = stamp.instant :=
    congrArg (Instant.mk _) (Nat.zero_add _)
  rw [Parts.instant?, hinstant, Option.ite_none_right_eq_some, Bool.and_eq_true,
    isProper_parts hstamp, Option.some.injEq, eq_comm (a := stamp.instant)]
  exact and_congr_left fun _ ↦ and_iff_left_of_imp fun hproper ↦ hproper.isSupported hstamp

theorem read?_text_eq_some_iff (hstamp : stamp.Fits) {instant : Instant} :
    read? stamp.text = some instant ↔ stamp.IsProper ∧ instant = stamp.instant := by
  rw [read?_text hstamp, instant?_parts hstamp]

theorem midnight_isProper : ({ date } : Stamp).IsProper ↔ date.InCalendar :=
  ⟨Stamp.IsProper.inCalendar, fun hday ↦
    ⟨hday, Nat.succ_pos 23, Nat.succ_pos 59, Nat.zero_le 60⟩⟩

theorem instant_midnight (date : Date) :
    ({ date } : Stamp).instant = ⟨date.dayNumber * 86400, 0⟩ :=
  congrArg (Instant.mk · 0) ((Stamp.seconds_instant _).trans (add_zero _))

/-- The midnight of a day of the calendar is read. -/
theorem read?_midnight (hdate : date.Fits) (hday : date.InCalendar) :
    read? ({ date } : Stamp).text = some ⟨date.dayNumber * 86400, 0⟩ := by
  rw [read?_text_eq_some_iff (fits_midnight hdate), instant_midnight]
  exact ⟨midnight_isProper.2 hday, rfl⟩

/-! ### Order -/

/-- Instants stand in the order of the numbers of their times. -/
theorem instant_lt_iff (hstamp : stamp.IsProper) (hother : other.IsProper) :
    stamp.instant < other.instant ↔ stamp.Before other := by
  have hminute := hstamp.minute_lt
  have hminute' := hother.minute_lt
  have hhour := hstamp.hour_lt
  have hhour' := hother.hour_lt
  have hsecond := hstamp.second_le
  have hsecond' := hother.second_le
  rw [Stamp.Before, ← Date.dayNumber_lt_iff hstamp.inCalendar hother.inCalendar,
    ← Date.dayNumber_inj hstamp.inCalendar hother.inCalendar, Instant.lt_def,
    stamp.seconds_instant, other.seconds_instant]
  simp only [Stamp.instant, Instant.nanosPerSecond]
  -- A leap second goes with the second before it, and its nanoseconds put it behind.
  split <;> split <;> omega

theorem twoDigits_append_lt_iff {n m : ℕ} {rest rest' : List Char} (hn : n < 100) (hm : m < 100) :
    Decimal.padded 2 n ++ rest < Decimal.padded 2 m ++ rest' ↔ n < m ∨ n = m ∧ rest < rest' :=
  Decimal.padded_append_lt_iff Nat.two_pos hn hm

theorem dateText_append_lt_iff {date other : Date} {rest rest' : List Char} (hdate : date.Fits)
    (hother : other.Fits) :
    dateText ['-'] date ++ rest < dateText ['-'] other ++ rest' ↔
      date.Before other ∨ date = other ∧ rest < rest' := by
  have hyear := hdate.year_nonneg
  have hyear' := hother.year_nonneg
  have hle := hdate.year_le
  have hle' := hother.year_le
  have hyears {rest rest' : List Char} :
      Decimal.padded 4 date.year.toNat ++ rest < Decimal.padded 4 other.year.toNat ++ rest' ↔
        date.year < other.year ∨ date.year = other.year ∧ rest < rest' := by
    have hlt : date.year.toNat < other.year.toNat ↔ date.year < other.year := by omega
    have heq : date.year.toNat = other.year.toNat ↔ date.year = other.year := by omega
    rw [Decimal.padded_append_lt_iff (by decide) (by omega) (by omega), hlt, heq]
  simp only [dateText, List.append_assoc, List.cons_append, List.nil_append, hyears,
    List.cons_lt_cons_iff, lt_irrefl, false_or, true_and,
    twoDigits_append_lt_iff hdate.month_lt hother.month_lt,
    twoDigits_append_lt_iff hdate.day_lt hother.day_lt, Date.Before, Date.ext_iff, and_or_left,
    or_assoc, and_assoc]

theorem clockText_append_lt_iff (hstamp : stamp.Fits) (hother : other.Fits) (rest : List Char) :
    stamp.clockText ++ rest < other.clockText ++ rest ↔
      stamp.hour < other.hour ∨ stamp.hour = other.hour ∧
        (stamp.minute < other.minute ∨ stamp.minute = other.minute ∧
          stamp.second < other.second) := by
  simp only [Stamp.clockText, List.append_assoc, List.cons_append, List.cons_lt_cons_iff, lt_irrefl,
    false_or, true_and, and_false, or_false,
    twoDigits_append_lt_iff hstamp.hour_lt hother.hour_lt,
    twoDigits_append_lt_iff hstamp.minute_lt hother.minute_lt,
    twoDigits_append_lt_iff hstamp.second_lt hother.second_lt]

/-- Timestamps of full width stand as texts in the order of their numbers. -/
theorem text_lt_iff (hstamp : stamp.Fits) (hother : other.Fits) :
    stamp.text < other.text ↔ stamp.Before other := by
  rw [String.lt_iff_toList_lt, Stamp.text, Stamp.text, String.toList_ofList, String.toList_ofList,
    List.append_assoc, List.append_assoc, dateText_append_lt_iff hstamp.date hother.date,
    clockText_append_lt_iff hstamp hother, Stamp.Before]

end Instants

/-- What is read of dates and times in a fixed number of digits. A bare date, with dashes and
without them, is read as the midnight that starts its day, which is read exactly if the calendar has
the day. Days are counted from 1970-01-01, and the midnights of a day and of the one that follows it
directly are 86400 seconds apart. So the timestamps of full width that are read, which are those of
a day of the calendar and a time of the day with any second up to 60, are ordered as texts like the
instants that they denote. -/
theorem dates_in_order :
    (∀ date : Date, date.Fits →
      let midnight := read? ({ date } : Stamp).text
      read? (String.ofList (dateText ['-'] date)) = midnight ∧
        read? (String.ofList (dateText [] date)) = midnight ∧
        (midnight.isSome ↔ date.InCalendar)) ∧
      read? "1970-01-01" = some ⟨0, 0⟩ ∧
      (∀ date : Date, date.InCalendar → ∃ next, date.IsNext next) ∧
      (∀ date next : Date, date.Fits → next.Fits → date.IsNext next →
        ∃ instant, read? (String.ofList (dateText ['-'] date)) = some instant ∧
          read? (String.ofList (dateText ['-'] next)) =
            some { instant with seconds := instant.seconds + 86400 }) ∧
      (∀ stamp : Stamp, stamp.Fits → ((read? stamp.text).isSome ↔ stamp.IsProper)) ∧
      ∀ stamp other : Stamp, stamp.Fits → other.Fits → ∀ instant instant',
        read? stamp.text = some instant → read? other.text = some instant' →
          (stamp.text < other.text ↔ instant < instant') ∧
            (stamp.text = other.text ↔ instant = instant') := by
  have hread {stamp : Stamp} (hstamp : stamp.Fits) :
      (read? stamp.text).isSome ↔ stamp.IsProper := by
    simp only [Option.isSome_iff_exists, read?_text_eq_some_iff hstamp, exists_and_left,
      exists_eq, and_true]
  refine ⟨fun date hdate ↦ ?_, by decide +kernel, fun date ↦ Date.InCalendar.exists_isNext,
    fun date next hdate hnext hsuccession ↦ ?_, fun stamp ↦ hread,
    fun stamp other hstamp hother instant instant' hinstant hinstant' ↦ ?_⟩
  · refine ⟨read?_dateText .extended hdate, read?_dateText .basic hdate, ?_⟩
    rw [hread (fits_midnight hdate), midnight_isProper]
  · obtain ⟨hday, hday', hnumber⟩ := Date.isNext_iff.1 hsuccession
    refine ⟨⟨date.dayNumber * 86400, 0⟩, ?_, ?_⟩
    · rw [read?_dateText .extended hdate, read?_midnight hdate hday]
    · rw [read?_dateText .extended hnext, read?_midnight hnext hday', hnumber, add_mul, one_mul]
  · obtain ⟨hproper, rfl⟩ := (read?_text_eq_some_iff hstamp).1 hinstant
    obtain ⟨hproper', rfl⟩ := (read?_text_eq_some_iff hother).1 hinstant'
    have hlt := (text_lt_iff hstamp hother).trans (instant_lt_iff hproper hproper').symm
    have hgt := (text_lt_iff hother hstamp).trans (instant_lt_iff hproper' hproper).symm
    refine ⟨hlt, ?_⟩
    rw [le_antisymm_iff, le_antisymm_iff, ← not_lt, ← not_lt, hlt, hgt, not_lt, not_lt]

/-- The second before the leap second of 2016. -/
def lastSecond : Stamp where
  date := ⟨2016, 12, 31⟩
  hour := 23
  minute := 59
  second := 59

/-- The leap day of a full hundred that has one follows its eve by a day, and a leap second stands
behind the second that it continues, both as a text and as an instant. -/
theorem sample_in_order :
    (∃ instant, read? "2000-02-28" = some instant ∧
        read? "2000-02-29" = some { instant with seconds := instant.seconds + 86400 }) ∧
      read? "2016-12-31T23:59:60Z" = some ⟨1483228799, 1000000000⟩ ∧
      "2016-12-31T23:59:59Z" < "2016-12-31T23:59:60Z" := by
  obtain ⟨-, -, -, hnext, -, horder⟩ := dates_in_order
  have hplain : read? lastSecond.text = some ⟨1483228799, 0⟩ := by decide +kernel
  have hleap : read? ({ lastSecond with second := 60 } : Stamp).text =
      some ⟨1483228799, 1000000000⟩ := by
    decide +kernel
  have hfits : lastSecond.Fits :=
    ⟨⟨by decide, by decide, by decide, by decide⟩, by decide, by decide, by decide⟩
  have hfits' : ({ lastSecond with second := 60 } : Stamp).Fits :=
    ⟨hfits.date, hfits.hour_lt, hfits.minute_lt, by decide⟩
  refine ⟨hnext ⟨2000, 2, 28⟩ ⟨2000, 2, 29⟩ ⟨by decide, by decide, by decide, by decide⟩
    ⟨by decide, by decide, by decide, by decide⟩ (Date.isNext_iff.2 ⟨?_, ?_, by decide⟩),
    hleap, ((horder _ _ hfits hfits' _ _ hplain hleap).1).2 (by decide)⟩
  · exact Date.exists?_iff.1 (by decide)
  · exact Date.exists?_iff.1 (by decide)

end Timestamp

end RunningBalance
