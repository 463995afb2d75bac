import RunningBalance.Ledger.Statement
import RunningBalance.Proofs.Calendar
import RunningBalance.Proofs.Timestamp.Coherence

/-!
# Written timestamps are read back

Reading a text gives an instant whose fraction of a second is below one, or below two within a leap
second, which ends a minute; and it lies in a supported year (`isDenoted_of_read?`). Such an instant
can be written and read again: `read?_write` finds it unchanged, `read?_writeMillis` without what is
finer than a millisecond. `read?_of_entry` says so of the two places where a ledger shows an
instant.
-/

set_option autoImplicit false
set_option relaxedAutoImplicit false

namespace RunningBalance

/-- What every instant that a text denotes satisfies. -/
structure Instant.IsDenoted (instant : Instant) : Prop where
  nanos_lt : instant.nanos < 2 * nanosPerSecond
  /-- A leap second continues the last second of a minute. -/
  leap : nanosPerSecond ≤ instant.nanos → instant.seconds % 60 = 59
  supported : instant.isSupported = true

namespace Timestamp

/-! ### What reading finds -/

/-- What the numbers read in any layout satisfy. -/
structure Parts.IsRead (parts : Parts) : Prop where
  nanos_lt : parts.nanos < Instant.nanosPerSecond
  offset_mod : parts.offset % 60 = 0

section Read

variable {parts parts' : Parts} {text rest : List Char}

theorem nanosOf_lt {digits : List Char} (h : ∀ c ∈ digits, c.isDigit = true) :
    nanosOf digits < Instant.nanosPerSecond := by
  have hdigits : ∀ c ∈ (digits.take 9).rightpad 9 '0', c.isDigit = true := by
    intro c hc
    rw [List.rightpad, List.mem_append] at hc
    rcases hc with hc | hc
    · exact h c (List.mem_of_mem_take hc)
    · rw [List.eq_of_mem_replicate hc]
      rfl
  have hlength : ((digits.take 9).rightpad 9 '0').length = 9 := by
    rw [List.rightpad, List.length_append, List.length_replicate, List.length_take]
    omega
  have hlt := Decimal.value_lt hdigits
  rwa [hlength] at hlt

theorem Parts.IsRead.readItem? {item : Item} (hparts : parts.IsRead)
    (h : readItem? parts text item = some (parts', rest)) : parts'.IsRead := by
  obtain rfl | ⟨field, n, rfl⟩ | ⟨digits, hdigits, rfl⟩ | ⟨-, offset, hoffset, rfl⟩ :=
    parts_of_readItem? h
  · exact hparts
  · cases field <;> exact ⟨hparts.nanos_lt, hparts.offset_mod⟩
  · exact ⟨nanosOf_lt hdigits, hparts.offset_mod⟩
  · exact ⟨hparts.nanos_lt, hoffset⟩

theorem Parts.IsRead.readItems? {items : List Item} (hparts : parts.IsRead)
    (h : readItems? items parts text = some (parts', rest)) : parts'.IsRead := by
  induction items generalizing parts text with
  | nil =>
    cases h
    exact hparts
  | cons item items ih =>
    obtain ⟨next, left, hitem, hitems⟩ := readItems?_cons_eq_some_iff.1 h
    exact ih (hparts.readItem? hitem) hitems

/-- An instant that a text denotes can be written again. -/
theorem isDenoted_of_read? {text : String} {instant : Instant} (h : read? text = some instant) :
    instant.IsDenoted := by
  obtain ⟨layout, -, hread⟩ := read?_eq_some_iff.1 h
  obtain ⟨parts, hparts, hinstant⟩ := Option.bind_eq_some_iff.1 (Layout.read?_eq ▸ hread)
  have hstart : ({} : Parts).IsRead := ⟨by decide, by decide⟩
  obtain ⟨hnanos, hoffset⟩ := hstart.readItems? (Layout.parts?_eq_some_iff.1 hparts)
  rw [Parts.instant?, Option.ite_none_right_eq_some, Bool.and_eq_true, Option.some.injEq]
    at hinstant
  obtain ⟨⟨hproper, hsupported⟩, rfl⟩ := hinstant
  refine ⟨?_, ?_, hsupported⟩
  · dsimp only
    split <;> omega
  · intro hleap
    dsimp only at hleap
    split at hleap
    · next hsecond =>
      simp only [Parts.seconds, hsecond, Instant.secondsPerDay]
      omega
    · omega

end Read

/-! ### Reading what is written -/

section Written

variable {parts : Parts} {rest : List Char}

theorem readItem?_char {c : Char} :
    readItem? parts (c :: rest) (.oneOf [c]) = some (parts, rest) := by
  simp [readItem?]

/-- A field of full width is read back. -/
theorem readItem?_padded (field : Field) {width n : ℕ} (hfield : field.width = width)
    (h : n < 10 ^ width) :
    readItem? parts (Decimal.padded width n ++ rest) (.number field) =
      some (parts.set field n, rest) := by
  subst hfield
  have hwidth : 0 < field.width := by cases field <;> decide
  have hdigits : fixedDigits? field.width (Decimal.padded field.width n ++ rest) = some (n, rest) :=
    fixedDigits?_padded hwidth h
  obtain ⟨htrim, hread⟩ := readNumber?_of_fixedDigits? hdigits
  rw [readItem?, htrim, hread]
  rfl

theorem readItem?_twoDigits (field : Field) {n : ℕ} (hfield : field.width = 2) (h : n < 100) :
    readItem? parts (Decimal.padded 2 n ++ rest) (.number field) = some (parts.set field n, rest) :=
  readItem?_padded field hfield h

/-- A year is read back, with its sign where it has one. -/
theorem readItem?_writeYear {year : ℤ} (hrest : Text.StartsOff Char.isDigit rest) :
    readItem? parts (writeYear year ++ rest) (.number .year) =
      some ({ parts with year }, rest) := by
  unfold writeYear
  split
  · next hrange =>
    have hread : readItem? parts (Decimal.padded 4 year.natAbs ++ rest) (.number .year) =
        some (parts.set .year year.natAbs, rest) :=
      readItem?_padded .year rfl (by omega)
    rwa [Parts.set, Int.natAbs_of_nonneg hrange.1] at hread
  · next hrange =>
    have hdigits := leadingDigits?_of_forall (Decimal.padded_ne_nil 4 year.natAbs)
      (fun _ ↦ Decimal.isDigit_of_mem_padded) hrest
    have hblank : Text.isBlank (if year < 0 then '-' else '+') = false := by split <;> decide
    have hread : readNumber? .year ((if year < 0 then '-' else '+') ::
        (Decimal.padded 4 year.natAbs ++ rest)) = some (year, rest) := by
      split
      all_goals
        simp only [readNumber?, hdigits, Option.map_some, Decimal.value_padded, Option.some.injEq,
          Prod.mk.injEq, and_true]
        omega
    rw [List.cons_append, readItem?, trimStart_cons hblank, hread]
    rfl

/-- A date of the calendar is read back. -/
theorem readItems?_writeDate {date : Date} (hdate : date.exists? = true) :
    readItems? extendedDate parts (writeDate date ++ rest) =
      some ({ parts with year := date.year, month := date.month, day := date.day }, rest) := by
  obtain ⟨hmonth, hday⟩ := Date.le_of_exists? hdate
  have hyear (rest : List Char) :
      readItem? parts (writeYear date.year ++ '-' :: rest) (.number .year) =
        some ({ parts with year := date.year }, '-' :: rest) :=
    readItem?_writeYear (Text.startsOff_cons.2 (by decide))
  have hmonth' : date.month < 100 := by omega
  have hday' : date.day < 100 := by omega
  simp only [writeDate, List.append_assoc, List.cons_append, extendedDate, readItems?, hyear,
    readItem?_char, readItem?_twoDigits .month rfl hmonth', readItem?_twoDigits .day rfl hday',
    Parts.set, Int.toNat_natCast]

/-- A time of day is read back, with a fraction behind it. -/
theorem readItems?_writeClock {instant : Instant} {fraction : List Char} {nanos : ℕ}
    (hnanos : instant.nanos < 2 * Instant.nanosPerSecond)
    (hfraction : ∀ parts : Parts, parts.nanos = 0 →
      readItem? parts fraction .fraction = some ({ parts with nanos }, []))
    (hparts : parts.nanos = 0) :
    readItems? extendedSecond parts (writeClock instant ++ fraction) =
      some ({ parts with
        hour := instant.secondOfDay / 3600
        minute := instant.secondOfDay / 60 % 60
        second := instant.secondOfDay % 60 + instant.nanos / Instant.nanosPerSecond
        nanos }, []) := by
  have hday : instant.secondOfDay < 86400 := by
    unfold Instant.secondOfDay Instant.secondsPerDay
    omega
  have hhour : instant.secondOfDay / 3600 < 100 := by omega
  have hminute : instant.secondOfDay / 60 % 60 < 100 := by omega
  have hsecond : instant.secondOfDay % 60 + instant.nanos / Instant.nanosPerSecond < 100 := by
    unfold Instant.nanosPerSecond at *
    omega
  simp only [writeClock, List.append_assoc, List.cons_append, List.nil_append, extendedSecond,
    extendedMinute, readItems?, readItem?_char, readItem?_twoDigits .hour rfl hhour,
    readItem?_twoDigits .minute rfl hminute, readItem?_twoDigits .second rfl hsecond, Parts.set,
    Int.toNat_natCast]
  rw [hfraction]
  exact hparts

/-- The digits of a fraction count from the first place after the point. -/
theorem nanosOf_padded {width n : ℕ} (hwidth : 0 < width) (hle : width ≤ 9) (h : n < 10 ^ width) :
    nanosOf (Decimal.padded width n) = n * 10 ^ (9 - width) := by
  have hlength := Decimal.length_padded hwidth h
  rw [nanosOf, List.take_of_length_le (hlength.trans_le hle), List.rightpad, Decimal.value,
    Nat.ofDigitChars_append, hlength, Nat.ofDigitChars_replicate_zero, Nat.mul_comm]
  exact congrArg (· * _) (Decimal.value_padded width n)

/-- A fraction of a second is read back. -/
theorem readItem?_fraction_padded {width n : ℕ} (hwidth : 0 < width) (hle : width ≤ 9)
    (h : n < 10 ^ width) :
    readItem? parts ('.' :: Decimal.padded width n) .fraction =
      some ({ parts with nanos := n * 10 ^ (9 - width) }, []) := by
  have hdigits : leadingDigits? (Decimal.padded width n ++ []) =
      some (Decimal.padded width n, []) :=
    leadingDigits?_of_forall (Decimal.padded_ne_nil width n)
      (fun _ ↦ Decimal.isDigit_of_mem_padded) Text.startsOff_nil
  rw [List.append_nil] at hdigits
  simp only [readItem?, hdigits, Option.map_some, nanosOf_padded hwidth hle h]

end Written

/-- The layout of date-times in UTC that instants are written in. -/
def extendedLayout : Layout where
  items := extendedDate ++ .oneOf ['T'] :: extendedSecond
  zulu := true

section Instants

variable {instant : Instant} {fraction : List Char} {nanos : ℕ}

/-- The numbers that are written for an instant, with a fraction of so many nanoseconds. -/
def writtenParts (instant : Instant) (nanos : ℕ) : Parts where
  year := instant.date.year
  month := instant.date.month
  day := instant.date.day
  hour := instant.secondOfDay / 3600
  minute := instant.secondOfDay / 60 % 60
  second := instant.secondOfDay % 60 + instant.nanos / Instant.nanosPerSecond
  nanos

theorem secondOfDay_eq (instant : Instant) :
    (instant.secondOfDay : ℤ) = instant.seconds % 86400 :=
  Int.toNat_of_nonneg (Int.emod_nonneg _ (by decide))

/-- The second that is written is 60 in a leap second, and that of the day otherwise. -/
theorem second_writtenParts (hinstant : instant.IsDenoted) (nanos : ℕ) :
    (writtenParts instant nanos).second ≤ 60 ∧
      min (writtenParts instant nanos).second 59 = instant.secondOfDay % 60 ∧
      (if (writtenParts instant nanos).second = 60 then Instant.nanosPerSecond else 0) =
        instant.nanos / Instant.nanosPerSecond * Instant.nanosPerSecond := by
  have hday := secondOfDay_eq instant
  change instant.secondOfDay % 60 + instant.nanos / Instant.nanosPerSecond ≤ 60 ∧
    min (instant.secondOfDay % 60 + instant.nanos / Instant.nanosPerSecond) 59 = _ ∧
    (if instant.secondOfDay % 60 + instant.nanos / Instant.nanosPerSecond = 60 then _ else _) = _
  rcases Nat.lt_or_ge instant.nanos Instant.nanosPerSecond with hshort | hleap
  · rw [Nat.div_eq_of_lt hshort, if_neg (by omega)]
    omega
  · have hone : instant.nanos / Instant.nanosPerSecond = 1 :=
      Nat.div_eq_of_lt_le (by rwa [Nat.one_mul]) hinstant.nanos_lt
    have hlast := hinstant.leap hleap
    rw [hone, if_pos (by omega)]
    omega

/-- The numbers that are written for an instant denote its seconds. -/
theorem seconds_writtenParts (hinstant : instant.IsDenoted) (nanos : ℕ) :
    (writtenParts instant nanos).seconds = instant.seconds := by
  have hday := secondOfDay_eq instant
  have hmin := (second_writtenParts hinstant nanos).2.1
  have hnumber : (writtenParts instant nanos).date.dayNumber =
      instant.seconds / Instant.secondsPerDay :=
    Date.dayNumber_ofDayNumber _
  rw [Parts.seconds, hnumber, hmin]
  simp only [writtenParts, Instant.secondsPerDay]
  omega

/-- The numbers that are written for an instant are in their ranges. -/
theorem isProper_writtenParts (hinstant : instant.IsDenoted) (nanos : ℕ) :
    (writtenParts instant nanos).isProper = true := by
  obtain ⟨hfirst, hlast⟩ := Instant.isSupported_iff.1 hinstant.supported
  have hday := secondOfDay_eq instant
  have hle := (second_writtenParts hinstant nanos).1
  have hexists : instant.date.exists? = true := Date.exists?_ofDayNumber _
  have hhour : instant.secondOfDay / 3600 < 24 := by omega
  have hminute : instant.secondOfDay / 60 % 60 < 60 := by omega
  have hoffset : -Instant.secondsPerDay < 0 ∧ 0 < Instant.secondsPerDay := by decide
  simp only [Parts.isProper, Bool.and_eq_true, decide_eq_true_eq]
  exact ⟨⟨⟨⟨⟨⟨⟨hfirst, hlast⟩, hexists⟩, hhour⟩, hminute⟩, hle⟩, hoffset.1⟩, hoffset.2⟩

/-- The numbers that are written for an instant denote it, with the fraction that is written. -/
theorem instant?_writtenParts (hinstant : instant.IsDenoted) :
    (writtenParts instant nanos).instant? =
      some { instant with
        nanos := nanos + instant.nanos / Instant.nanosPerSecond * Instant.nanosPerSecond } := by
  have hnanos := (second_writtenParts hinstant nanos).2.2
  have hsupported (nanos : ℕ) :
      ({ seconds := instant.seconds, nanos } : Instant).isSupported = true :=
    hinstant.supported
  rw [Parts.instant?, seconds_writtenParts hinstant nanos, isProper_writtenParts hinstant nanos,
    hnanos, hsupported, Bool.true_and, if_pos rfl]
  rfl

/-- A written instant is matched by the layout it is written in. -/
theorem parts?_writeWith (hinstant : instant.IsDenoted)
    (hfraction : ∀ parts : Parts, parts.nanos = 0 →
      readItem? parts fraction .fraction = some ({ parts with nanos }, [])) :
    extendedLayout.parts? (writeWith fraction instant).toList =
      some (writtenParts instant nanos) := by
  have hitems : readItems? extendedLayout.items {}
      (writeDate instant.date ++ 'T' :: (writeClock instant ++ fraction)) =
        some (writtenParts instant nanos, []) := by
    have hexists : instant.date.exists? = true := Date.exists?_ofDayNumber _
    refine readItems?_append_items (readItems?_writeDate hexists) ?_
    rw [readItems?, readItem?_char]
    exact readItems?_writeClock hinstant.nanos_lt hfraction rfl
  have hbody : extendedLayout.body (writeWith fraction instant).toList =
      writeDate instant.date ++ 'T' :: (writeClock instant ++ fraction) := by
    rw [Layout.body, writeWith, String.toList_ofList, extendedLayout, if_pos rfl,
      dropZulu_append (.inl rfl), List.append_assoc, List.cons_append]
  rw [Layout.parts?_eq_some_iff, hbody, hitems]

/-- A year starts with a digit or a sign. -/
theorem exists_writeYear (year : ℤ) :
    ∃ c later, writeYear year = c :: later ∧ Text.isBlank c = false := by
  unfold writeYear
  split
  · obtain ⟨c, later, heq⟩ := List.exists_cons_of_ne_nil (Decimal.padded_ne_nil 4 year.natAbs)
    have hdigit : c.isDigit = true := Decimal.isDigit_of_mem_padded (heq ▸ List.mem_cons_self)
    exact ⟨c, later, heq, isBlank_of_isDigit hdigit⟩
  · exact ⟨_, _, rfl, by split <;> decide⟩

/-- A written instant starts with its year and ends in the letter Z, so it has nothing to trim. -/
theorem trim_writeWith : Text.trim (writeWith fraction instant).toList =
    (writeWith fraction instant).toList := by
  rw [writeWith, String.toList_ofList]
  have hyear : Text.StartsOff Text.isBlank
      (writeDate instant.date ++ 'T' :: writeClock instant ++ fraction) := by
    obtain ⟨c, later, heq, hblank⟩ := exists_writeYear instant.date.year
    rw [writeDate, heq]
    exact Text.startsOff_cons.2 hblank
  exact Text.trim_append hyear.dropWhile (List.cons_ne_nil _ _) (ends_zulu (.inl rfl)).blank
    (ends_zulu (.inl rfl)).blank

/-- What is written is read back, with the fraction that is written. -/
theorem read?_writeWith (hinstant : instant.IsDenoted)
    (hfraction : ∀ parts : Parts, parts.nanos = 0 →
      readItem? parts fraction .fraction = some ({ parts with nanos }, [])) :
    read? (writeWith fraction instant) =
      some { instant with
        nanos := nanos + instant.nanos / Instant.nanosPerSecond * Instant.nanosPerSecond } := by
  have hlayout : extendedLayout ∈ layouts := by decide
  rw [← instant?_writtenParts hinstant]
  refine read?_eq_of_parts? hlayout ?_
  rw [trim_writeWith]
  exact parts?_writeWith hinstant hfraction

/-- The shortest exact fraction of a second is read back. -/
theorem readItem?_writeFraction {parts : Parts} (hnanos : nanos < Instant.nanosPerSecond)
    (hparts : parts.nanos = 0) :
    readItem? parts (writeFraction nanos) .fraction = some ({ parts with nanos }, []) := by
  unfold Instant.nanosPerSecond at hnanos
  unfold writeFraction
  split
  · next hzero =>
    rw [readItem?_fraction_of_startsOff Text.startsOff_nil, hzero, ← hparts]
  · split
    · next hmod =>
      have hthree : nanos / 1000000 < 10 ^ 3 := by omega
      rw [readItem?_fraction_padded (by decide) (by decide) hthree]
      congr
      omega
    · split
      · next hmod =>
        have hsix : nanos / 1000 < 10 ^ 6 := by omega
        rw [readItem?_fraction_padded (by decide) (by decide) hsix]
        congr
        omega
      · rw [readItem?_fraction_padded (by decide) (by decide) (show nanos < 10 ^ 9 by omega)]
        congr
        omega

/-- An instant that has been written is read back. -/
theorem read?_write (hinstant : instant.IsDenoted) : read? (write instant) = some instant := by
  have hlt : instant.subsecond < Instant.nanosPerSecond := Nat.mod_lt _ (by decide)
  rw [write, read?_writeWith hinstant fun _ ↦ readItem?_writeFraction hlt, Instant.subsecond,
    Nat.mod_add_div']

/-- An instant written to the millisecond is read back without what is finer. -/
theorem read?_writeMillis (hinstant : instant.IsDenoted) :
    read? (writeMillis instant) =
      some { instant with nanos := instant.nanos / 1000000 * 1000000 } := by
  have hthree : instant.subsecond / 1000000 < 10 ^ 3 := by
    have hlt : instant.subsecond < Instant.nanosPerSecond := Nat.mod_lt _ (by decide)
    unfold Instant.nanosPerSecond at hlt
    omega
  have hfraction (parts : Parts) : readItem? parts
      ('.' :: Decimal.padded 3 (instant.subsecond / 1000000)) .fraction =
        some ({ parts with nanos := instant.subsecond / 1000000 * 1000000 }, []) :=
    readItem?_fraction_padded (by decide) (by decide) hthree
  rw [writeMillis, read?_writeWith hinstant fun parts _ ↦ hfraction parts]
  simp only [Instant.subsecond, Instant.nanosPerSecond, Option.some.injEq, Instant.mk.injEq,
    true_and]
  omega

/-- The member of a ledger document and the row of a statement that show an entry both hold its
date: a date that was read is read from the document again, and from the row to the millisecond,
where a leap second stays one. -/
theorem read?_of_entry {text : String} (hread : read? text = some instant) {entry : Entry}
    (hentry : entry.date = instant) :
    (∃ members written, entry.json = .object members ∧
        members.lookup "date" = some (.string written) ∧ read? written = some instant) ∧
      ∃ shown, entry.line =
          entry.source.title ++ " " ++ shown ++ " " ++ Amount.write entry.delta ++
            " - balance: " ++ Amount.write entry.balance ∧
        read? shown = some { instant with nanos := instant.nanos / 1000000 * 1000000 } ∧
        (Instant.nanosPerSecond ≤ instant.nanos / 1000000 * 1000000 ↔
          Instant.nanosPerSecond ≤ instant.nanos) := by
  subst hentry
  have hdenoted := isDenoted_of_read? hread
  refine ⟨⟨_, write entry.date, rfl, rfl, read?_write hdenoted⟩,
    writeMillis entry.date, rfl, read?_writeMillis hdenoted, ?_⟩
  unfold Instant.nanosPerSecond
  omega

/-- A transfer in a leap second before the common era. -/
def leapEntry : Entry where
  id := { source := .transferIn, number := 3 }
  date := ⟨-63549273601, 1123456789⟩
  delta := -5
  balance := 7
  origin := .transferIn
    { id := 3, requestedDate := "-44-3-15T 23:59:60.123456789", tokenAmount := "5" }

theorem sample_of_entry :
    read? "-44-3-15T 23:59:60.123456789" = some leapEntry.date ∧
      (∃ members written, leapEntry.json = .object members ∧
        members.lookup "date" = some (.string written) ∧ read? written = some leapEntry.date) ∧
      ∃ shown, leapEntry.line = "Transfer in " ++ shown ++ " -5 - balance: 7" ∧
        read? shown = some ⟨-63549273601, 1123000000⟩ := by
  have hread : read? "-44-3-15T 23:59:60.123456789" = some leapEntry.date := by decide +kernel
  obtain ⟨hmember, shown, hline, hshown, -⟩ := read?_of_entry hread rfl
  have hrow : " " ++ (Amount.write leapEntry.delta ++
      (" - balance: " ++ Amount.write leapEntry.balance)) = " -5 - balance: 7" := by
    decide +kernel
  refine ⟨hread, hmember, shown, ?_, hshown⟩
  rw [hline, ← hrow]
  simp only [String.append_assoc]
  rfl

end Instants

end Timestamp

end RunningBalance

