import RunningBalance.Proofs.Decimal

/-!
# The order of numerals

Runs of digits of one length stand in the order of their values, and where the values are the same
what follows decides (`append_lt_append_iff`). So numbers with zeros in front up to one width are
ordered as texts like the numbers (`padded_append_lt_iff`).
-/

set_option autoImplicit false
set_option relaxedAutoImplicit false

namespace RunningBalance.Decimal

section Order

variable {rest rest' : List Char}

theorem value_cons (c : Char) (digits : List Char) :
    value (c :: digits) = 10 ^ digits.length * (c.toNat - '0'.toNat) + value digits := by
  rw [value, Nat.ofDigitChars_cons, Nat.ofDigitChars_eq_ofDigitChars_zero, Nat.mul_zero,
    Nat.zero_add, value]

/-- Of two digits the one that counts less stands first. -/
theorem digit_lt_iff {c d : Char} (hc : c.isDigit = true) (hd : d.isDigit = true) :
    (c < d ↔ c.toNat - '0'.toNat < d.toNat - '0'.toNat) ∧
      (c = d ↔ c.toNat - '0'.toNat = d.toNat - '0'.toNat) := by
  have hc := (Char.isDigit_iff_toNat.1 hc).1
  have hd := (Char.isDigit_iff_toNat.1 hd).1
  have hlt : c < d ↔ c.toNat < d.toNat := Iff.rfl
  rw [hlt, ← Char.toNat_inj]
  omega

/-- Where two numbers have parts below a unit, their numbers of units decide first. -/
theorem units_add_lt_iff {unit a b x y : ℕ} (hx : x < unit) (hy : y < unit) :
    (unit * a + x < unit * b + y ↔ a < b ∨ a = b ∧ x < y) ∧
      (unit * a + x = unit * b + y ↔ a = b ∧ x = y) := by
  rcases Nat.lt_trichotomy a b with hlt | rfl | hlt
  · have hunits := Nat.mul_le_mul_left unit (Nat.succ_le_of_lt hlt)
    rw [Nat.mul_succ] at hunits
    omega
  · omega
  · have hunits := Nat.mul_le_mul_left unit (Nat.succ_le_of_lt hlt)
    rw [Nat.mul_succ] at hunits
    omega

theorem append_lt_append_iff {digits others : List Char} (hlength : digits.length = others.length)
    (hdigits : ∀ c ∈ digits, c.isDigit = true) (hothers : ∀ c ∈ others, c.isDigit = true) :
    digits ++ rest < others ++ rest' ↔
      value digits < value others ∨ value digits = value others ∧ rest < rest' := by
  induction digits generalizing others with
  | nil =>
    obtain rfl := List.eq_nil_of_length_eq_zero hlength.symm
    simp
  | cons c digits ih =>
    obtain ⟨d, others, rfl⟩ := List.exists_cons_of_length_eq_add_one hlength.symm
    obtain ⟨hc, hdigits⟩ := List.forall_mem_cons.1 hdigits
    obtain ⟨hd, hothers⟩ := List.forall_mem_cons.1 hothers
    have hlength := Nat.succ.inj hlength
    have hless : value digits < 10 ^ others.length := hlength ▸ value_lt hdigits
    obtain ⟨hlead, hlead'⟩ := digit_lt_iff hc hd
    obtain ⟨hvalue, hvalue'⟩ := units_add_lt_iff (a := c.toNat - '0'.toNat)
      (b := d.toNat - '0'.toNat) hless (value_lt hothers)
    rw [List.cons_append, List.cons_append, List.cons_lt_cons_iff, ih hlength hdigits hothers,
      hlead, hlead', value_cons, value_cons, hlength, hvalue, hvalue', and_or_left, or_assoc,
      and_assoc]

theorem padded_append_lt_iff {width n m : ℕ} (hwidth : 0 < width) (hn : n < 10 ^ width)
    (hm : m < 10 ^ width) :
    padded width n ++ rest < padded width m ++ rest' ↔ n < m ∨ n = m ∧ rest < rest' := by
  have hlength : (padded width n).length = (padded width m).length :=
    (length_padded hwidth hn).trans (length_padded hwidth hm).symm
  rw [append_lt_append_iff hlength (fun _ ↦ isDigit_of_mem_padded) fun _ ↦ isDigit_of_mem_padded,
    value_padded, value_padded]

end Order

end RunningBalance.Decimal
