import RunningBalance.Proofs.Amount
import RunningBalance.Proofs.Text.Run

/-!
# Amounts in whole tokens are exact

An amount in whole tokens is written as a decimal numeral with a point. A numeral is told by its
text (`Numeral.write_injective`), so a text has at most one value.

The point parts the digits of an amount, or stands before all of them with zeros in between; either
way it divides their value by the power of ten (`value_of_split?`). Trimming zeros at the end
changes no value (`fractionValue_trimFraction`), and leaves a canonical numeral
(`isCanonical_unitsNumeral`). `inUnits?_exact` is the main statement.
-/

set_option autoImplicit false
set_option relaxedAutoImplicit false

namespace RunningBalance.Amount

/-! ### Numerals with a point -/

/-- A decimal numeral with digits on both sides of its point. -/
structure Numeral where
  negative : Bool
  whole : List Char
  fraction : List Char
  whole_ne_nil : whole ≠ []
  fraction_ne_nil : fraction ≠ []
  isDigit_whole : ∀ c ∈ whole, c.isDigit
  isDigit_fraction : ∀ c ∈ fraction, c.isDigit

/-- What digits behind the point denote. -/
def fractionValue (digits : List Char) : ℚ :=
  Decimal.value digits / 10 ^ digits.length

namespace Numeral

def write (numeral : Numeral) : String :=
  String.ofList
    ((if numeral.negative then ['-'] else []) ++ numeral.whole ++ '.' :: numeral.fraction)

def value (numeral : Numeral) : ℚ :=
  (if numeral.negative then -1 else 1) *
    (Decimal.value numeral.whole + fractionValue numeral.fraction)

/-- The digits before the point are a zero or do not start with one. Those behind it are a zero, or
are so many at most and do not end in one. -/
structure IsCanonical (decimals : ℕ) (numeral : Numeral) : Prop where
  whole : numeral.whole = ['0'] ∨ numeral.whole.head? ≠ some '0'
  fraction : numeral.fraction = ['0'] ∨
    numeral.fraction.length ≤ decimals ∧ numeral.fraction.getLast? ≠ some '0'

/-- The first character tells whether there is a sign. -/
theorem negative_iff_head? (numeral : Numeral) :
    numeral.negative = true ↔ numeral.write.toList.head? = some '-' := by
  obtain ⟨c, digits, hwhole⟩ := List.exists_cons_of_ne_nil numeral.whole_ne_nil
  have hdigit := numeral.isDigit_whole c (hwhole ▸ List.mem_cons_self)
  rw [write, String.toList_ofList, hwhole]
  cases numeral.negative with
  | true => exact iff_of_true rfl rfl
  | false =>
    refine iff_of_false Bool.false_ne_true fun hhead ↦ ?_
    obtain rfl : c = '-' := Option.some.inj hhead
    cases hdigit

/-- A numeral is told by its text. -/
theorem write_injective : Function.Injective write := by
  intro numeral other hwrite
  have hnegative : numeral.negative = other.negative := by
    rw [Bool.eq_iff_iff, negative_iff_head?, negative_iff_head?, hwrite]
  have hchars := String.ofList_injective hwrite
  rw [hnegative, List.append_assoc, List.append_assoc, List.append_cancel_left_eq] at hchars
  have hpoint (digits : List Char) : Text.StartsOff Char.isDigit ('.' :: digits) :=
    Text.startsOff_cons.2 rfl
  have hwhole := congrArg (List.takeWhile Char.isDigit) hchars
  rw [Text.takeWhile_append_of_forall numeral.isDigit_whole (hpoint _),
    Text.takeWhile_append_of_forall other.isDigit_whole (hpoint _)] at hwhole
  rw [hwhole, List.append_cancel_left_eq] at hchars
  cases numeral
  cases other
  simp_all only [List.cons.injEq]

end Numeral

/-! ### Trailing zeros -/

/-- Zeros at the end of a fraction do not count. -/
theorem fractionValue_append_zeros (digits : List Char) (zeros : ℕ) :
    fractionValue (digits ++ List.replicate zeros '0') = fractionValue digits := by
  rw [fractionValue, fractionValue, Decimal.value_append, Decimal.value_replicate_zero,
    List.length_append, List.length_replicate, Nat.add_zero, pow_add]
  push_cast
  field_simp

theorem fractionValue_trimFraction (digits : List Char) :
    fractionValue (trimFraction digits) = fractionValue digits := by
  obtain ⟨zeros, hdigits, -⟩ := Text.exists_append_replicate '0' digits
  have hkept : fractionValue digits = fractionValue (Text.dropTrailing (· = '0') digits) := by
    conv_lhs => rw [hdigits]
    exact fractionValue_append_zeros _ _
  rw [hkept, trimFraction]
  cases Text.dropTrailing (· = '0') digits with
  | nil => norm_num [fractionValue, Decimal.value, Nat.ofDigitChars]
  | cons c kept => rfl

/-- What is left of a fraction is a single zero, or a beginning of it that does not end in one. -/
theorem trimFraction_eq_or (digits : List Char) :
    trimFraction digits = ['0'] ∨ trimFraction digits ≠ [] ∧
      trimFraction digits <+: digits ∧ (trimFraction digits).getLast? ≠ some '0' := by
  obtain ⟨zeros, hdigits, hlast⟩ := Text.exists_append_replicate '0' digits
  rw [trimFraction]
  cases hkept : Text.dropTrailing (· = '0') digits with
  | nil => exact .inl rfl
  | cons c kept =>
    rw [hkept] at hdigits hlast
    exact .inr ⟨List.cons_ne_nil _ _, ⟨_, hdigits.symm⟩, hlast⟩

/-! ### Where the point stands -/

section Split

variable {digits whole fraction : List Char} {decimals : ℕ}

/-- The digits are parted, or are all put behind the point with zeros in front of them. -/
theorem split?_spec (h : split? digits decimals = some (whole, fraction)) :
    fraction.length = decimals ∧
      (whole ≠ [] ∧ digits = whole ++ fraction ∨
        whole = ['0'] ∧ ∃ zeros, fraction = List.replicate zeros '0' ++ digits) := by
  rw [split?] at h
  split at h
  · next hlt =>
    obtain ⟨rfl, rfl⟩ := Prod.mk.inj (Option.some.inj h)
    have hne : digits.take (digits.length - decimals) ≠ [] := by
      rw [← List.length_pos_iff, List.length_take]
      omega
    refine ⟨?_, .inl ⟨hne, (List.take_append_drop _ _).symm⟩⟩
    rw [List.length_drop]
    omega
  · next hle =>
    split at h
    · obtain ⟨rfl, rfl⟩ := Prod.mk.inj (Option.some.inj h)
      refine ⟨?_, .inr ⟨rfl, _, rfl⟩⟩
      rw [List.length_leftpad]
      omega
    · cases h

/-- The point divides the value of the digits by the power of ten. -/
theorem value_of_split? (h : split? digits decimals = some (whole, fraction)) :
    (Decimal.value whole + fractionValue fraction : ℚ) = Decimal.value digits / 10 ^ decimals := by
  obtain ⟨hlength, ⟨-, rfl⟩ | ⟨rfl, zeros, rfl⟩⟩ := split?_spec h
  · rw [fractionValue, Decimal.value_append, hlength]
    push_cast
    field_simp
  · rw [fractionValue, Decimal.value_append, hlength, Decimal.value_replicate_zero]
    norm_num [Decimal.value, Nat.ofDigitChars]

variable {n : ℕ}

/-- The digits before the point have no needless zero in front. -/
theorem whole_of_split? (h : split? (Decimal.ofNat n) decimals = some (whole, fraction)) :
    whole ≠ [] ∧ (whole = ['0'] ∨ whole.head? ≠ some '0') := by
  obtain ⟨-, ⟨hne, hdigits⟩ | ⟨rfl, -⟩⟩ := split?_spec h
  · refine ⟨hne, ?_⟩
    rcases eq_or_ne n 0 with rfl | hn
    · obtain ⟨hnil, -⟩ | ⟨hzero, -⟩ := List.append_eq_singleton_iff.1 hdigits.symm
      · exact absurd hnil hne
      · exact .inl hzero
    · have hhead := Decimal.head?_ofNat_ne hn
      rw [hdigits, List.head?_append_of_ne_nil _ hne] at hhead
      exact .inr hhead
  · exact ⟨List.cons_ne_nil _ _, .inl rfl⟩

theorem isDigit_of_split? (h : split? (Decimal.ofNat n) decimals = some (whole, fraction)) :
    (∀ c ∈ whole, c.isDigit) ∧ ∀ c ∈ fraction, c.isDigit := by
  have hdigits (c : Char) (hc : c ∈ Decimal.ofNat n) : c.isDigit := Decimal.isDigit_of_mem_ofNat hc
  obtain ⟨-, ⟨-, hparts⟩ | ⟨rfl, zeros, rfl⟩⟩ := split?_spec h
  · rw [hparts] at hdigits
    exact List.forall_mem_append.1 hdigits
  · refine ⟨List.forall_mem_singleton.2 rfl, List.forall_mem_append.2 ⟨fun c hc ↦ ?_, hdigits⟩⟩
    rw [List.eq_of_mem_replicate hc]
    rfl

end Split

/-! ### The numeral of an amount -/

section Units

variable {amount : ℤ} {decimals : ℕ} {whole fraction : List Char} {text : String}

/-- The numeral of an amount, of which the digits have been split. -/
def unitsNumeral (h : split? (Decimal.ofNat amount.natAbs) decimals = some (whole, fraction)) :
    Numeral where
  negative := amount < 0
  whole := whole
  fraction := trimFraction fraction
  whole_ne_nil := (whole_of_split? h).1
  fraction_ne_nil := by
    obtain hzero | ⟨hne, -⟩ := trimFraction_eq_or fraction
    · rw [hzero]
      exact List.cons_ne_nil _ _
    · exact hne
  isDigit_whole := (isDigit_of_split? h).1
  isDigit_fraction c hc := by
    obtain hzero | ⟨-, hbeginning, -⟩ := trimFraction_eq_or fraction
    · rw [List.mem_singleton.1 (hzero ▸ hc : c ∈ ['0'])]
      rfl
    · exact (isDigit_of_split? h).2 c (hbeginning.subset hc)

/-- The text of an amount is that of its numeral. -/
theorem exists_write_unitsNumeral (h : inUnits? amount decimals = some text) :
    ∃ whole fraction,
      ∃ hsplit : split? (Decimal.ofNat amount.natAbs) decimals = some (whole, fraction),
        text = (unitsNumeral hsplit).write := by
  rw [inUnits?, Option.map_eq_some_iff] at h
  obtain ⟨⟨whole, fraction⟩, hsplit, rfl⟩ := h
  refine ⟨whole, fraction, hsplit, ?_⟩
  simp only [Numeral.write, unitsNumeral, decide_eq_true_eq]

/-- The numeral denotes the amount divided by the power of ten. -/
theorem value_unitsNumeral
    (h : split? (Decimal.ofNat amount.natAbs) decimals = some (whole, fraction)) :
    (unitsNumeral h).value = amount / 10 ^ decimals := by
  have hsigned : (if amount < 0 then -1 else 1 : ℚ) * amount.natAbs = amount := by
    rw [Nat.cast_natAbs]
    split
    · next hneg => rw [abs_of_neg hneg, Int.cast_neg, neg_one_mul, neg_neg]
    · next hneg => rw [abs_of_nonneg (not_lt.1 hneg), one_mul]
  rw [Numeral.value, unitsNumeral, fractionValue_trimFraction, value_of_split? h,
    Decimal.value_ofNat, ← mul_div_assoc]
  simp only [decide_eq_true_eq, hsigned]

theorem isCanonical_unitsNumeral
    (h : split? (Decimal.ofNat amount.natAbs) decimals = some (whole, fraction)) :
    (unitsNumeral h).IsCanonical decimals where
  whole := (whole_of_split? h).2
  fraction := (trimFraction_eq_or fraction).imp_right fun ⟨_, hbeginning, hlast⟩ ↦
    ⟨hbeginning.length_le.trans (split?_spec h).1.le, hlast⟩

end Units

/-- An amount can be written in whole tokens if its fraction fits the widest field or its digits
need no padding. The text is then a canonical numeral that denotes the amount divided by the power
of ten and has a sign exactly if the amount is negative, and it is the text of no other amount. -/
theorem inUnits?_exact (amount : ℤ) (decimals : ℕ) :
    ((inUnits? amount decimals).isSome ↔
        decimals ≤ widestField ∨ 10 ^ decimals ≤ amount.natAbs) ∧
      ∀ text, inUnits? amount decimals = some text →
        (∃ numeral : Numeral, text = numeral.write ∧ numeral.IsCanonical decimals ∧
          numeral.value = amount / 10 ^ decimals ∧ (numeral.negative ↔ amount < 0)) ∧
        ∀ other, inUnits? other decimals = some text → other = amount := by
  refine ⟨inUnits?_isSome_iff, fun text h ↦ ?_⟩
  obtain ⟨whole, fraction, hsplit, rfl⟩ := exists_write_unitsNumeral h
  refine ⟨⟨_, rfl, isCanonical_unitsNumeral hsplit, value_unitsNumeral hsplit,
    decide_eq_true_iff⟩, fun other hother ↦ ?_⟩
  obtain ⟨whole', fraction', hsplit', hwrite⟩ := exists_write_unitsNumeral hother
  have hvalue := congrArg Numeral.value (Numeral.write_injective hwrite)
  rw [value_unitsNumeral hsplit, value_unitsNumeral hsplit'] at hvalue
  have hten : (10 : ℚ) ^ decimals ≠ 0 := by positivity
  exact_mod_cast ((div_left_inj' hten).1 hvalue).symm

/-- Seven hundredths of a token below zero. -/
theorem sample_inUnits : inUnits? (-7) 2 = some "-0.07" ∧
    ∀ other, inUnits? other 2 = some "-0.07" → other = -7 := by
  have htext : inUnits? (-7) 2 = some "-0.07" := by decide +kernel
  exact ⟨htext, ((inUnits?_exact (-7) 2).2 _ htext).2⟩

end RunningBalance.Amount
