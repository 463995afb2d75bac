/-!
# Hexadecimal numerals

Digits of either case are read, small letters are written.
-/

set_option autoImplicit false
set_option relaxedAutoImplicit false

namespace RunningBalance.Text

/-- The value of a hexadecimal digit of either case. -/
def hexDigit? (c : Char) : Option Nat :=
  if 0x30 ≤ c.toNat ∧ c.toNat ≤ 0x39 then some (c.toNat - 0x30)
  else if 0x61 ≤ c.toNat ∧ c.toNat ≤ 0x66 then some (c.toNat - 0x61 + 10)
  else if 0x41 ≤ c.toNat ∧ c.toNat ≤ 0x46 then some (c.toNat - 0x41 + 10)
  else none

theorem hexDigit?_lt {c : Char} {digit : Nat} (h : hexDigit? c = some digit) : digit < 16 := by
  unfold hexDigit? at h
  split at h
  · cases h; omega
  · split at h
    · cases h; omega
    · split at h
      · cases h; omega
      · cases h

/-- The number that hexadecimal digits denote after those already read, the most significant
first. -/
def hexNumber? (value : Nat) : List Char → Option Nat
  | [] => some value
  | c :: rest =>
    match hexDigit? c with
    | some digit => hexNumber? (16 * value + digit) rest
    | none => none

theorem hexNumber?_lt {digits : List Char} {value number : Nat}
    (h : hexNumber? value digits = some number) :
    number < (value + 1) * Nat.pow 16 digits.length := by
  induction digits generalizing value with
  | nil => simp only [hexNumber?, Option.some.injEq] at h; simp [← h]
  | cons c rest ih =>
    simp only [hexNumber?] at h
    split at h
    · next digit hdigit =>
      have hlt := hexDigit?_lt hdigit
      calc number < (16 * value + digit + 1) * Nat.pow 16 rest.length := ih h
        _ ≤ ((value + 1) * 16) * Nat.pow 16 rest.length := Nat.mul_le_mul_right _ (by omega)
        _ = (value + 1) * Nat.pow 16 (c :: rest).length := by
          rw [Nat.mul_assoc, Nat.mul_comm 16]
          rfl
    · cases h

/-- The `width` lowest hexadecimal digits of a number, the most significant first. -/
def hexDigits : Nat → Nat → List Char
  | 0, _ => []
  | width + 1, number => hexDigits width (number / 16) ++ [Nat.digitChar (number % 16)]

end RunningBalance.Text
