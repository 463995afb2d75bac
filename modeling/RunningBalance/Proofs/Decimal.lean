import Mathlib
import RunningBalance.Decimal

/-!
# Numerals and their values

What is written as a numeral consists of digits and has the value of the number written, with zeros
in front (`value_padded`) or without (`value_ofNat`), and integers are read back (`integer_ofInt`).
A bounded number is read from digits if their value is below the bound (`bounded_eq`).
-/

set_option autoImplicit false
set_option relaxedAutoImplicit false

namespace RunningBalance.Decimal

theorem isDigit_of_mem_ofNat {n : ℕ} {c : Char} (h : c ∈ ofNat n) : c.isDigit = true :=
  Nat.isDigit_of_mem_toDigits (by decide) (by decide) h

theorem ofNat_ne_nil (n : ℕ) : ofNat n ≠ [] :=
  Nat.toDigits_ne_nil

/-- A numeral starts with a digit. -/
theorem exists_ofNat_eq_cons (n : ℕ) : ∃ c digits, ofNat n = c :: digits ∧ c.isDigit = true := by
  obtain ⟨c, digits, heq⟩ := List.exists_cons_of_ne_nil (ofNat_ne_nil n)
  exact ⟨c, digits, heq, isDigit_of_mem_ofNat (heq ▸ List.mem_cons_self)⟩

theorem value_ofNat (n : ℕ) : value (ofNat n) = n :=
  Nat.ofDigitChars_ten_toDigits

/-- Different numbers have different numerals. -/
theorem ofNat_injective : Function.Injective ofNat :=
  Function.LeftInverse.injective value_ofNat

/-- A number has more digits than some width if it is not below the power of ten. -/
theorem lt_length_ofNat_iff {n width : ℕ} (hwidth : 0 < width) :
    width < (ofNat n).length ↔ 10 ^ width ≤ n := by
  rw [← Nat.not_le, ofNat, Nat.length_toDigits_le_iff (by decide) hwidth, Nat.not_lt]

/-- A number other than zero is written without a zero in front. -/
theorem head?_ofNat_ne {n : ℕ} (h : n ≠ 0) : (ofNat n).head? ≠ some '0' := by
  induction n using Nat.strongRecOn with
  | ind n ih =>
    rw [ofNat]
    rcases Nat.lt_or_ge n 10 with hlt | hge
    · have hdigit : ∀ d < 10, d ≠ 0 → (Nat.digitChar d) ≠ '0' := by decide
      rw [Nat.toDigits_of_lt_base hlt, List.head?_cons]
      exact fun heq ↦ hdigit n hlt h (Option.some.inj heq)
    · obtain ⟨c, digits, heq, -⟩ := exists_ofNat_eq_cons (n / 10)
      have hhead := ih (n / 10) (by omega) (by omega)
      rw [heq, List.head?_cons] at hhead
      rw [ofNat] at heq
      rwa [Nat.toDigits_of_base_le (by decide) hge, heq, List.cons_append, List.head?_cons]

/-- Digits count by how many digits stand behind them. -/
theorem value_append (digits later : List Char) :
    value (digits ++ later) = 10 ^ later.length * value digits + value later := by
  rw [value, Nat.ofDigitChars_append, Nat.ofDigitChars_eq_ofDigitChars_zero, value, value]

theorem value_replicate_zero (n : ℕ) : value (List.replicate n '0') = 0 := by
  rw [value, Nat.ofDigitChars_replicate_zero, Nat.mul_zero]

/-- A run of digits has a value below the power of ten of its length. -/
theorem value_lt {digits : List Char} (h : ∀ c ∈ digits, c.isDigit = true) :
    value digits < 10 ^ digits.length := by
  induction digits with
  | nil => decide
  | cons c digits ih =>
    obtain ⟨hdigit, hdigits⟩ := List.forall_mem_cons.1 h
    have hle : c.toNat - '0'.toNat ≤ 9 := by
      have hrange := (Char.isDigit_iff_toNat.1 hdigit).2
      exact Nat.sub_le_of_le_add hrange
    calc value (c :: digits) =
          10 ^ digits.length * (c.toNat - '0'.toNat) + value digits := by
          rw [value, Nat.ofDigitChars_cons, Nat.ofDigitChars_eq_ofDigitChars_zero, Nat.mul_zero,
            Nat.zero_add, value]
      _ < 10 ^ digits.length * 9 + 10 ^ digits.length :=
          Nat.add_lt_add_of_le_of_lt (Nat.mul_le_mul_left _ hle) (ih hdigits)
      _ = 10 ^ (c :: digits).length := by
          rw [List.length_cons, Nat.pow_succ]
          omega

/-! ### Zeros in front -/

section Padded

variable {width n : ℕ}

theorem isDigit_of_mem_padded {c : Char} (h : c ∈ padded width n) : c.isDigit = true := by
  rw [padded, List.leftpad, List.mem_append] at h
  rcases h with hzero | hdigit
  · rw [List.eq_of_mem_replicate hzero]
    rfl
  · exact isDigit_of_mem_ofNat hdigit

theorem value_padded (width n : ℕ) : value (padded width n) = n := by
  rw [value, padded, List.leftpad, Nat.ofDigitChars_append, Nat.ofDigitChars_replicate_zero,
    Nat.mul_zero]
  exact value_ofNat n

theorem length_padded (hwidth : 0 < width) (h : n < 10 ^ width) :
    (padded width n).length = width := by
  have hlength : (ofNat n).length ≤ width := (Nat.length_toDigits_le_iff (by decide) hwidth).2 h
  rw [padded, List.length_leftpad, Nat.max_eq_left hlength]

theorem padded_ne_nil (width n : ℕ) : padded width n ≠ [] := by
  rw [padded, List.leftpad]
  exact List.append_ne_nil_of_right_ne_nil _ (ofNat_ne_nil n)

end Padded

/-! ### Integers -/

theorem ofInt_eq (n : ℤ) :
    ofInt n = (if decide (n < 0) then ['-'] else []) ++ ofNat n.natAbs := by
  unfold ofInt
  split <;> simp [*]

theorem splitSign_ofNat_append (n : ℕ) (rest : List Char) :
    splitSign (ofNat n ++ rest) = (false, ofNat n ++ rest) := by
  obtain ⟨c, digits, heq, hdigit⟩ := exists_ofNat_eq_cons n
  rw [heq, List.cons_append, splitSign.eq_def]
  split
  · next hc =>
    obtain ⟨rfl, -⟩ := List.cons.inj hc
    cases hdigit
  · next hc =>
    obtain ⟨rfl, -⟩ := List.cons.inj hc
    cases hdigit
  · rfl

/-- An integer is written as its sign, if it is negative, and its magnitude. -/
theorem splitSign_ofInt_append (n : ℤ) (rest : List Char) :
    splitSign (ofInt n ++ rest) = (decide (n < 0), ofNat n.natAbs ++ rest) := by
  unfold ofInt
  split
  · next hneg => simp [splitSign, hneg]
  · next hneg => simp [splitSign_ofNat_append, hneg]

/-- An integer that has been written is read back. -/
theorem integer_ofInt (n : ℤ) : integer (ofInt n) = .ok n := by
  have hall : (ofNat n.natAbs).all (fun c ↦ c.isDigit || decide (c = '_')) = true :=
    List.all_eq_true.2 fun c hc ↦ Bool.or_eq_true_iff.2 (.inl (isDigit_of_mem_ofNat hc))
  have hhead : (ofNat n.natAbs).head? ≠ some '_' := by
    intro hhead
    cases isDigit_of_mem_ofNat (List.mem_of_mem_head? hhead)
  have hfilter : (ofNat n.natAbs).filter Char.isDigit = ofNat n.natAbs :=
    List.filter_eq_self.2 fun c ↦ isDigit_of_mem_ofNat
  have hsign := splitSign_ofInt_append n []
  simp only [List.append_nil] at hsign
  simp only [integer, hsign, hall, hfilter, value_ofNat, List.isEmpty_iff, ofNat_ne_nil,
    hhead, if_false, decide_eq_true_eq, decide_false, Bool.not_true, Bool.or_false,
    Bool.false_eq_true, Except.ok.injEq]
  split <;> omega

/-- Further digits do not make a number smaller. -/
theorem le_ofDigitChars (digits : List Char) (soFar : ℕ) :
    soFar ≤ Nat.ofDigitChars 10 digits soFar := by
  rw [Nat.ofDigitChars_eq_ofDigitChars_zero]
  exact Nat.le_add_right_of_le (Nat.le_mul_of_pos_left soFar (Nat.pow_pos (by decide)))

/-- Digits are read as a bounded number if they do not carry the number beyond the limit. -/
theorem boundedFrom_eq {limit soFar : ℕ} {digits : List Char}
    (hdigits : ∀ c ∈ digits, c.isDigit = true) (hsoFar : soFar < limit) :
    boundedFrom limit soFar digits =
      if Nat.ofDigitChars 10 digits soFar < limit then .ok (Nat.ofDigitChars 10 digits soFar)
      else .error .tooLarge := by
  induction digits generalizing soFar with
  | nil => exact (if_pos hsoFar).symm
  | cons c digits ih =>
    obtain ⟨hdigit, hlater⟩ := List.forall_mem_cons.1 hdigits
    rw [boundedFrom, hdigit, Nat.ofDigitChars_cons, if_neg (by decide)]
    split
    · next hlt => exact ih hlater hlt
    · next hge =>
      rw [if_neg fun hlt ↦ hge (Nat.lt_of_le_of_lt (le_ofDigitChars digits _) hlt)]

/-- A text of digits, with an optional plus sign, is read as a bounded number if its value is
below the limit. -/
theorem bounded_eq {limit : ℕ} {text digits : List Char} (hlimit : 0 < limit)
    (hdigits : ∀ c ∈ digits, c.isDigit = true) (hne : digits ≠ [])
    (htext : text = digits ∨ text = '+' :: digits) :
    bounded limit text = if value digits < limit then .ok (value digits) else .error .tooLarge := by
  obtain ⟨c, later, rfl⟩ := List.exists_cons_of_ne_nil hne
  have hbounded : bounded limit text = boundedFrom limit 0 (c :: later) := by
    have hc : c ≠ '+' := by
      rintro rfl
      exact absurd (hdigits _ List.mem_cons_self) (by decide)
    rcases htext with rfl | rfl
    · rw [bounded] <;> simp [hc]
    · rfl
  rw [hbounded, boundedFrom_eq hdigits hlimit, value]

/-- A minus sign is no digit. -/
theorem bounded_minus (limit : ℕ) (digits : List Char) :
    bounded limit ('-' :: digits) = .error .digit := by
  rfl

end RunningBalance.Decimal
