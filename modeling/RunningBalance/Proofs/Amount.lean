import Mathlib.Data.Nat.Digits.Defs
import RunningBalance.Amount
import RunningBalance.Proofs.Decimal

/-!
# What the text of an amount denotes

A numeral is a text of decimal digits, at least one, and nothing else (`IsNumeral`); it denotes the
number with those digits (`Denotes`). `read?_eq_some_iff` says that reading accepts exactly the
numerals and gives the number that they denote, whatever their length and their leading zeros.
-/

set_option autoImplicit false
set_option relaxedAutoImplicit false

namespace RunningBalance.Amount

/-- Decimal digits, at least one, and nothing else. -/
def IsNumeral (text : String) : Prop :=
  text ≠ "" ∧ ∀ c ∈ text.toList, '0' ≤ c ∧ c ≤ '9'

/-- The values of the digits of a text, the least significant first. -/
def digitValues (text : String) : List ℕ :=
  (text.toList.map fun c ↦ c.toNat - '0'.toNat).reverse

/-- A numeral denotes the number with its digits. -/
def Denotes (text : String) (amount : ℕ) : Prop :=
  IsNumeral text ∧ amount = Nat.ofDigits 10 (digitValues text)

/-- The value of a run of digits is the positional one. -/
theorem value_eq_ofDigits (text : String) :
    Decimal.value text.toList = Nat.ofDigits 10 (digitValues text) := by
  rw [Decimal.value, Nat.ofDigitChars_eq_foldl, digitValues, Nat.ofDigits_eq_foldr,
    List.foldr_reverse, List.foldl_map]
  simp only [Nat.cast_id, Nat.add_comm]

/-- The test that reading makes is that for a numeral. -/
theorem isNumeral_iff (text : String) :
    IsNumeral text ↔ (text.toList.isEmpty || !text.toList.all Char.isDigit) = false := by
  have hdigit (c : Char) : c.isDigit = true ↔ '0' ≤ c ∧ c ≤ '9' := by
    simp only [Char.isDigit, Bool.and_eq_true, decide_eq_true_eq]
    rfl
  simp [IsNumeral, hdigit, List.all_eq_true]

/-- Reading accepts exactly the numerals and gives the number that they denote. -/
theorem read?_eq_some_iff {text : String} {amount : ℕ} :
    read? text = some amount ↔ Denotes text amount := by
  rw [read?, Decimal.natural?, Denotes, isNumeral_iff, ← value_eq_ofDigits]
  by_cases h : (text.toList.isEmpty || !text.toList.all Char.isDigit) = true
  · simp [h]
  · rw [if_neg h, Option.some.injEq, eq_comm]
    simp only [Bool.not_eq_true] at h
    simp only [h, true_and]

/-- Reading refuses exactly the texts that are no numerals. -/
theorem read?_eq_none_iff {text : String} : read? text = none ↔ ¬IsNumeral text := by
  rw [read?, Decimal.natural?, isNumeral_iff]
  simp

/-- An amount can be written in whole tokens if the padding of a fraction is not too wide, or if its
digits need no padding. -/
theorem inUnits?_isSome_iff {amount : ℤ} {decimals : ℕ} :
    (inUnits? amount decimals).isSome ↔
      decimals ≤ widestField ∨ 10 ^ decimals ≤ amount.natAbs := by
  have hsplit (digits : List Char) :
      (split? digits decimals).isSome ↔ decimals ≤ widestField ∨ decimals < digits.length := by
    rw [split?]
    split
    · next hlt => simp [hlt]
    · next hle =>
      split
      · next hwidth => simp [hwidth]
      · next hwidth => simp [hle, hwidth]
  rw [inUnits?, Option.isSome_map, hsplit]
  rcases Nat.eq_zero_or_pos decimals with rfl | hpos
  · exact iff_of_true (.inl (Nat.zero_le _)) (.inl (Nat.zero_le _))
  · rw [Decimal.lt_length_ofNat_iff hpos]

end RunningBalance.Amount
