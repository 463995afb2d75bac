import RunningBalance.Proofs.Calendar
import RunningBalance.Proofs.Timestamp.Coherence

/-!
# Adding a zone to a timestamp

A date-time without a zone is taken as UTC. `read?_with_zone` says what becomes of it when a zone is
written behind it: with a letter Z it denotes the same instant, and with an offset, where the layout
has one, the instant as much earlier as the offset is east of UTC, if that lies in a supported year.
-/

set_option autoImplicit false
set_option relaxedAutoImplicit false

namespace RunningBalance

/-! ### Numbers with and without an offset -/

/-- The instant so many seconds earlier; within a leap second it stays as far into it. -/
def Instant.earlier (instant : Instant) (seconds : ℤ) : Instant :=
  { instant with seconds := instant.seconds - seconds }

namespace Timestamp

section Parts

variable {parts parts' : Parts} {text rest : List Char} {instant : Instant}

/-- Numbers that denote an instant in UTC denote one as much earlier with an offset of less than a
day, if that is in a supported year. -/
theorem instant?_with_offset {offset : ℤ} (hutc : parts.offset = 0)
    (h : parts.instant? = some instant) (hwest : -Instant.secondsPerDay < offset)
    (heast : offset < Instant.secondsPerDay) :
    ({ parts with offset } : Parts).instant? =
      if (instant.earlier offset).isSupported then some (instant.earlier offset) else none := by
  rw [Parts.instant?, Option.ite_none_right_eq_some, Bool.and_eq_true, Option.some.injEq] at h
  obtain ⟨⟨hproper, -⟩, rfl⟩ := h
  have hproper' : ({ parts with offset } : Parts).isProper = true := by
    simp only [Parts.isProper, Bool.and_eq_true, decide_eq_true_eq] at hproper ⊢
    exact ⟨⟨hproper.1.1, hwest⟩, heast⟩
  have hseconds : ({ parts with offset } : Parts).seconds = parts.seconds - offset := by
    simp only [Parts.seconds, Parts.date, hutc, sub_zero]
  rw [Parts.instant?, hproper', hseconds, Bool.true_and]
  rfl

/-- Only an offset or a zone changes the offset. -/
theorem offset_of_readItems? {items : List Item} (hoffset : .offset ∉ items) (hzone : .zone ∉ items)
    (h : readItems? items parts text = some (parts', rest)) : parts'.offset = parts.offset := by
  induction items generalizing parts text with
  | nil =>
    cases h
    rfl
  | cons item items ih =>
    rw [List.mem_cons, not_or] at hoffset hzone
    obtain ⟨next, left, hitem, hitems⟩ := readItems?_cons_eq_some_iff.1 h
    rw [ih hoffset.2 hzone.2 hitems]
    obtain rfl | ⟨field, n, rfl⟩ | ⟨digits, -, rfl⟩ | ⟨hitem | hitem, -⟩ :=
      parts_of_readItem? hitem
    · rfl
    · cases field <;> rfl
    · rfl
    · exact absurd hitem.symm hoffset.1
    · exact absurd hitem.symm hzone.1

end Parts

/-! ### Zones behind a timestamp -/

/-- An offset of hours and minutes, with or without a colon between them. -/
def writeOffset (negative colon : Bool) (hour minute : ℕ) : List Char :=
  (if negative then '-' else '+') ::
    (Decimal.padded 2 hour ++ (if colon then [':'] else []) ++ Decimal.padded 2 minute)

/-- The seconds east of UTC of an offset. -/
def offsetSeconds (negative : Bool) (hour minute : ℕ) : ℤ :=
  if negative then -(3600 * hour + 60 * minute) else 3600 * hour + 60 * minute

section Zones

variable {negative colon : Bool} {hour minute : ℕ} {parts : Parts}

theorem writeOffset_ne_nil : writeOffset negative colon hour minute ≠ [] :=
  List.cons_ne_nil _ _

theorem ends_writeOffset (negative colon : Bool) (hour minute : ℕ) :
    Ends (writeOffset negative colon hour minute) := by
  cases negative <;> exact ends_cons (by decide) (by decide) (by decide)

/-- An offset ends in a digit. -/
theorem startsOff_reverse_writeOffset :
    Text.StartsOff Text.isBlank (writeOffset negative colon hour minute).reverse := by
  intro c hc
  rw [List.head?_reverse, writeOffset, ← List.cons_append,
    List.getLast?_append_of_ne_nil _ (Decimal.padded_ne_nil 2 minute)] at hc
  exact isBlank_of_isDigit (Decimal.isDigit_of_mem_padded (List.mem_of_mem_getLast? hc))

/-- Digits are neither blank nor a colon. -/
theorem startsOff_padded {p : Char → Bool} (hp : ∀ c : Char, c.isDigit = true → p c = false)
    (width number : ℕ) : Text.StartsOff p (Decimal.padded width number) :=
  fun c hc ↦ hp c (Decimal.isDigit_of_mem_padded (List.mem_of_mem_head? hc))

/-- An offset that has been written is read back, with and without a colon. -/
theorem readItem?_writeOffset (hhour : hour < 24) (hminute : minute < 60) :
    readItem? parts (writeOffset negative colon hour minute) .offset =
      some ({ parts with offset := offsetSeconds negative hour minute }, []) := by
  have htrim : Text.trimStart (writeOffset negative colon hour minute) =
      writeOffset negative colon hour minute :=
    (ends_writeOffset negative colon hour minute).blank.dropWhile
  have hseparator : ((if colon then [':'] else []) ++ Decimal.padded 2 minute).dropWhile
      (fun c ↦ decide (c = ':') || Text.isBlank c) = Decimal.padded 2 minute := by
    have hdigits := startsOff_padded (p := fun c ↦ decide (c = ':') || Text.isBlank c)
      (fun c hdigit ↦ ?_) 2 minute
    · cases colon
      · exact hdigits.dropWhile
      · simpa using hdigits.dropWhile
    · have hne : c ≠ ':' := by
        rintro rfl
        cases hdigit
      simp [hne, isBlank_of_isDigit hdigit]
  have hminutes : fixedDigits? 2 (Decimal.padded 2 minute ++ []) = some (minute, []) :=
    fixedDigits?_padded Nat.two_pos (by omega)
  rw [List.append_nil] at hminutes
  refine Option.map_eq_some_iff.2 ⟨(offsetSeconds negative hour minute, []), ?_, rfl⟩
  rw [htrim]
  refine readOffset?_eq_some_iff.2 ⟨negative, _, hour, _, Decimal.padded 2 minute, minute, ?_,
    fixedDigits?_padded Nat.two_pos (by omega), congrArg some hseparator, hminutes, hminute, rfl⟩
  rw [writeOffset, List.append_assoc]
  cases negative <;> rfl

/-- An offset of hours and minutes is less than a day. -/
theorem offsetSeconds_bounds (negative : Bool) (hhour : hour < 24) (hminute : minute < 60) :
    -Instant.secondsPerDay < offsetSeconds negative hour minute ∧
      offsetSeconds negative hour minute < Instant.secondsPerDay := by
  unfold offsetSeconds Instant.secondsPerDay
  split <;> omega

end Zones

/-! ### Layouts without a zone -/

section Zoneless

variable {layout : Layout} {text : List Char} {parts : Parts}

theorem zonelessLayouts_subset : zonelessLayouts ⊆ layouts := by
  decide

/-- Where a layout without a zone has the letter T, there is one like it with an offset. -/
theorem offsetLayout_mem : ∀ layout ∈ zonelessLayouts, .oneOf ['T'] ∈ layout.items →
    ({ items := layout.items ++ [.offset] } : Layout) ∈ layouts := by
  decide

theorem zulu_of_mem_zonelessLayouts :
    ∀ {layout}, layout ∈ zonelessLayouts → layout.zulu = true := by
  decide

/-- The numbers found by a layout without a zone are those of a time in UTC. -/
theorem offset_of_mem_zonelessLayouts (hlayout : layout ∈ zonelessLayouts)
    (h : layout.parts? text = some parts) : parts.offset = 0 := by
  have hitems : ∀ layout ∈ zonelessLayouts, .offset ∉ layout.items ∧ .zone ∉ layout.items := by
    decide
  exact offset_of_readItems? (hitems layout hlayout).1 (hitems layout hlayout).2
    (Layout.parts?_eq_some_iff.1 h)

end Zoneless

/-- What becomes of a timestamp without a zone when a zone is written behind it. A letter Z changes
nothing; an offset makes it as much earlier as the offset is east of UTC, and the text is refused
where that is not in a supported year. -/
theorem read?_with_zone {text : String} {layout : Layout} {instant : Instant}
    (hlayout : layout ∈ zonelessLayouts) (hread : layout.read? text.toList = some instant)
    (htrim : Text.trim text.toList = text.toList)
    (hzulu : ∀ c ∈ text.toList.getLast?, c ≠ 'Z' ∧ c ≠ 'z') :
    read? text = some instant ∧
      (∀ z, z = 'Z' ∨ z = 'z' → read? (text.push z) = some instant) ∧
      (.oneOf ['T'] ∈ layout.items → ∀ negative colon hour minute, hour < 24 → minute < 60 →
        read? (text ++ String.ofList (writeOffset negative colon hour minute)) =
          let shifted := instant.earlier (offsetSeconds negative hour minute)
          if Instant.firstYear ≤ shifted.date.year ∧ shifted.date.year ≤ Instant.lastYear then
            some shifted
          else none) := by
  obtain ⟨parts, hparts, hinstant⟩ := Option.bind_eq_some_iff.1 (Layout.read?_eq ▸ hread)
  have hmem := zonelessLayouts_subset hlayout
  have hitems := Layout.parts?_eq_some_iff.1 hparts
  rw [Layout.body, dropZulu_of_getLast? hzulu, ite_self] at hitems
  have hstart := Text.trimStart_of_trim htrim
  refine ⟨?_, fun z hz ↦ ?_, fun hT negative colon hour minute hhour hminute ↦ ?_⟩
  · exact read?_eq_some_iff.2 ⟨layout, hmem, by rwa [htrim]⟩
  · have hends := ends_zulu hz
    have hparts' : layout.parts? (text.toList ++ [z]) = some parts := by
      rw [Layout.parts?_eq_some_iff, Layout.body, zulu_of_mem_zonelessLayouts hlayout, if_pos rfl,
        dropZulu_append hz]
      exact hitems
    refine (read?_eq_of_parts? hmem ?_).trans hinstant
    rwa [String.toList_push, Text.trim_append hstart (List.cons_ne_nil _ _) hends.blank hends.blank]
  · have hends := ends_writeOffset negative colon hour minute
    have hoffset : readItems? [.offset] parts ([] ++ writeOffset negative colon hour minute) =
        some ({ parts with offset := offsetSeconds negative hour minute }, []) :=
      readItems?_cons_eq_some_iff.2 ⟨_, _, readItem?_writeOffset hhour hminute, rfl⟩
    have hitems' := readItems?_append_items (readItems?_append hends hitems) hoffset
    obtain ⟨hwest, heast⟩ := offsetSeconds_bounds negative hhour hminute
    have hshifted := instant?_with_offset (offset_of_mem_zonelessLayouts hlayout hparts) hinstant
      hwest heast
    simp only [Instant.isSupported_iff] at hshifted
    refine (read?_eq_of_parts? (offsetLayout_mem layout hlayout hT) ?_).trans hshifted
    rw [String.toList_append, String.toList_ofList,
      Text.trim_append hstart writeOffset_ne_nil hends.blank startsOff_reverse_writeOffset]
    exact Layout.parts?_eq_some_iff.2 hitems'

/-- A leap second in a lenient spelling, with a letter Z and with an offset that carries it over the
end of February. -/
theorem sample_with_zone :
    read? "2024-2-29T 23:30:60.5" = some ⟨1709249459, 1500000000⟩ ∧
      read? "2024-2-29T 23:30:60.5z" = some ⟨1709249459, 1500000000⟩ ∧
      read? "2024-2-29T 23:30:60.5-01:30" = some ⟨1709254859, 1500000000⟩ := by
  have hread : ({ items := extendedDate ++ .oneOf ['T'] :: extendedSecond, zulu := true } :
      Layout).read? "2024-2-29T 23:30:60.5".toList = some ⟨1709249459, 1500000000⟩ := by
    decide +kernel
  have hlast : "2024-2-29T 23:30:60.5".toList.getLast? = some '5' := by decide +kernel
  have hdigit : ∀ c ∈ "2024-2-29T 23:30:60.5".toList.getLast?, c ≠ 'Z' ∧ c ≠ 'z' := by
    intro c hc
    cases hlast.symm.trans hc
    decide
  obtain ⟨hplain, hzulu, hoffset⟩ := read?_with_zone (by decide) hread (by decide +kernel) hdigit
  refine ⟨hplain, hzulu 'z' (.inr rfl), ?_⟩
  refine (hoffset (by decide) true true 1 30 (by decide) (by decide)).trans ?_
  decide +kernel

end Timestamp

end RunningBalance
