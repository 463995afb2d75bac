import Mathlib
import RunningBalance.Proofs.Text.Run
import RunningBalance.Text.Hex

/-!
# Hexadecimal numerals and their values

A field of hexadecimal digits denotes the number it was written for, up to the numbers that the
field can hold (`hexNumber?_hexDigits`).

The value of a digit is its place in the alphabet of the sixteen digits, and that of a run of digits
is the positional one (`hexValue`). Reading accepts exactly the digits of either case and gives this
value (`hexNumber?_eq_some_iff`); writing gives the digits back in small letters
(`hexDigits_hexValue`), and runs of small digits of one length stand in the order of their values
(`lt_iff_hexValue_lt`).
-/

set_option autoImplicit false
set_option relaxedAutoImplicit false

namespace RunningBalance.Text

theorem hexDigit?_digitChar {digit : ℕ} (h : digit < 16) :
    hexDigit? (Nat.digitChar digit) = some digit := by
  revert digit
  decide

theorem length_hexDigits (width number : ℕ) : (hexDigits width number).length = width := by
  induction width generalizing number with
  | zero => rfl
  | succ width ih => rw [hexDigits, List.length_append, ih, List.length_singleton]

theorem mem_hexDigits {width number : ℕ} {c : Char} (h : c ∈ hexDigits width number) :
    ∃ digit < 16, c = Nat.digitChar digit := by
  induction width generalizing number with
  | zero => cases h
  | succ width ih =>
    rcases List.mem_append.1 h with hmem | hlast
    · exact ih hmem
    · exact ⟨number % 16, Nat.mod_lt _ (by decide), List.mem_singleton.1 hlast⟩

/-- The last digit counts once and those before it sixteen times. -/
theorem hexNumber?_concat {digits : List Char} {c : Char} {soFar number digit : ℕ}
    (hdigits : hexNumber? soFar digits = some number) (hdigit : hexDigit? c = some digit) :
    hexNumber? soFar (digits ++ [c]) = some (16 * number + digit) := by
  induction digits generalizing soFar with
  | nil =>
    cases hdigits
    simp only [List.nil_append, hexNumber?, hdigit]
  | cons first digits ih =>
    rw [hexNumber?] at hdigits
    rw [List.cons_append, hexNumber?]
    cases hfirst : hexDigit? first with
    | none => simp only [hfirst, reduceCtorEq] at hdigits
    | some value =>
      simp only [hfirst] at hdigits
      exact ih hdigits

/-- A number below the power of sixteen of the width of its field is read back. -/
theorem hexNumber?_hexDigits {width number : ℕ} (h : number < 16 ^ width) :
    hexNumber? 0 (hexDigits width number) = some number := by
  induction width generalizing number with
  | zero =>
    rw [Nat.lt_one_iff.1 h]
    rfl
  | succ width ih =>
    have hquotient : number / 16 < 16 ^ width := by
      rw [Nat.pow_succ] at h
      omega
    have hdigit : hexDigit? (Nat.digitChar (number % 16)) = some (number % 16) :=
      hexDigit?_digitChar (Nat.mod_lt _ (by decide))
    rw [hexDigits, hexNumber?_concat (ih hquotient) hdigit, Nat.div_add_mod]

/-! ### Values -/

/-- The sixteen digits in the order of their values, the letters among them small. -/
def hexAlphabet : List Char :=
  ['0', '1', '2', '3', '4', '5', '6', '7', '8', '9', 'a', 'b', 'c', 'd', 'e', 'f']

/-- A hexadecimal digit of either case. -/
def IsHexDigit (c : Char) : Prop :=
  c.toLower ∈ hexAlphabet

/-- The value of a digit of either case is its place in the alphabet. -/
def hexDigitValue (c : Char) : ℕ :=
  hexAlphabet.idxOf c.toLower

/-- The number that hexadecimal digits denote, the most significant first. -/
def hexValue (digits : List Char) : ℕ :=
  Nat.ofDigits 16 (digits.map hexDigitValue).reverse

theorem hexDigitValue_lt {c : Char} (h : IsHexDigit c) : hexDigitValue c < 16 :=
  List.idxOf_lt_length_iff.2 h

theorem digitChar_hexDigitValue {c : Char} (h : IsHexDigit c) :
    Nat.digitChar (hexDigitValue c) = c.toLower := by
  have halphabet : hexAlphabet.Forall fun d ↦ Nat.digitChar (hexAlphabet.idxOf d) = d := by decide
  exact List.forall_iff_forall_mem.1 halphabet _ h

/-- The digits that are read are those of either case, with their values. -/
theorem hexDigit?_eq_some_iff {c : Char} {digit : ℕ} :
    hexDigit? c = some digit ↔ IsHexDigit c ∧ digit = hexDigitValue c := by
  rcases Nat.lt_or_ge c.toNat 128 with hlow | hhigh
  · have hall : ∀ code < 128,
        hexDigit? (Char.ofNat code) =
          if (Char.ofNat code).toLower ∈ hexAlphabet then
            some (hexAlphabet.idxOf (Char.ofNat code).toLower)
          else none := by
      decide +kernel
    have hc := hall c.toNat hlow
    rw [Char.ofNat_toNat] at hc
    rw [hc, IsHexDigit, hexDigitValue]
    split
    · next hmem => rw [Option.some.injEq, and_iff_right hmem, eq_comm]
    · next hmem => exact iff_of_false (by simp) fun h ↦ hmem h.1
  · have hnone : hexDigit? c = none := by
      rw [hexDigit?, if_neg (by omega), if_neg (by omega), if_neg (by omega)]
    have hsame : c.toLower = c := by
      have hupper : ¬ (c.val ≥ 'A'.val ∧ c.val ≤ 'Z'.val) := by
        rintro ⟨-, hle⟩
        have hle : c.toNat ≤ 'Z'.toNat := hle
        have hlast : 'Z'.toNat = 90 := rfl
        omega
      rw [Char.toLower, dif_neg hupper]
    have hascii : hexAlphabet.Forall fun d ↦ d.toNat < 128 := by decide
    rw [hnone, IsHexDigit, hsame]
    refine iff_of_false (by simp) fun h ↦ ?_
    have hlow := List.forall_iff_forall_mem.1 hascii c h.1
    omega

theorem IsHexDigit.isBlank_eq_false {c : Char} (h : IsHexDigit c) : isBlank c = false := by
  have hdigit := hexDigit?_eq_some_iff.2 ⟨h, rfl⟩
  have hcode : 0x30 ≤ c.toNat ∧ c.toNat ≤ 0x66 := by
    unfold hexDigit? at hdigit
    split at hdigit
    · omega
    · split at hdigit
      · omega
      · split at hdigit
        · omega
        · cases hdigit
  exact isBlank_eq_false_of_visible (by omega) (by omega)

theorem hexValue_cons (c : Char) (digits : List Char) :
    hexValue (c :: digits) = 16 ^ digits.length * hexDigitValue c + hexValue digits := by
  rw [hexValue, List.map_cons, List.reverse_cons, Nat.ofDigits_append, Nat.ofDigits_singleton,
    List.length_reverse, List.length_map, Nat.add_comm]
  rfl

theorem hexValue_concat (digits : List Char) (c : Char) :
    hexValue (digits ++ [c]) = 16 * hexValue digits + hexDigitValue c := by
  rw [hexValue, List.map_append, List.reverse_append, List.map_singleton, List.reverse_singleton,
    List.singleton_append, Nat.ofDigits_cons, Nat.add_comm]
  rfl

theorem hexValue_lt {digits : List Char} (h : ∀ c ∈ digits, IsHexDigit c) :
    hexValue digits < 16 ^ digits.length := by
  have hlt := Nat.ofDigits_lt_base_pow_length (b := 16) (l := (digits.map hexDigitValue).reverse)
    (by decide) fun value hvalue ↦ by
      obtain ⟨c, hc, rfl⟩ := List.mem_map.1 (List.mem_reverse.1 hvalue)
      exact hexDigitValue_lt (h c hc)
  rwa [List.length_reverse, List.length_map] at hlt

/-- Reading accepts exactly the digits of either case and gives their value. -/
theorem hexNumber?_eq_some_iff {digits : List Char} {soFar number : ℕ} :
    hexNumber? soFar digits = some number ↔
      (∀ c ∈ digits, IsHexDigit c) ∧
        number = 16 ^ digits.length * soFar + hexValue digits := by
  induction digits generalizing soFar with
  | nil => simp [hexNumber?, hexValue, eq_comm]
  | cons c digits ih =>
    rw [hexNumber?, List.forall_mem_cons, hexValue_cons, List.length_cons]
    cases hdigit : hexDigit? c with
    | none =>
      refine iff_of_false (by simp) fun h ↦ ?_
      rw [hexDigit?_eq_some_iff.2 ⟨h.1.1, rfl⟩] at hdigit
      cases hdigit
    | some digit =>
      obtain ⟨hc, rfl⟩ := hexDigit?_eq_some_iff.1 hdigit
      simp only [ih, and_iff_right hc]
      refine and_congr_right fun _ ↦ ?_
      rw [pow_succ, mul_add, add_assoc, mul_assoc]

/-- The digits that are written for the value of digits are the same in small letters. -/
theorem hexDigits_hexValue {digits : List Char} (h : ∀ c ∈ digits, IsHexDigit c) :
    hexDigits digits.length (hexValue digits) = digits.map Char.toLower := by
  induction digits using List.reverseRecOn with
  | nil => rfl
  | append_singleton digits c ih =>
    obtain ⟨hdigits, hc⟩ := List.forall_mem_append.1 h
    have hlast := List.forall_mem_singleton.1 hc
    have hlt := hexDigitValue_lt hlast
    have hquotient : (16 * hexValue digits + hexDigitValue c) / 16 = hexValue digits := by omega
    have hremainder : (16 * hexValue digits + hexDigitValue c) % 16 = hexDigitValue c := by omega
    rw [List.length_append, List.length_singleton, hexDigits, hexValue_concat, hquotient,
      hremainder, ih hdigits, digitChar_hexDigitValue hlast, List.map_append, List.map_singleton]

/-- The digits that are written are small. -/
theorem mem_hexAlphabet_of_mem_hexDigits {width number : ℕ} {c : Char}
    (h : c ∈ hexDigits width number) : c ∈ hexAlphabet := by
  have halphabet : ∀ digit < 16, Nat.digitChar digit ∈ hexAlphabet := by decide
  obtain ⟨digit, hlt, rfl⟩ := mem_hexDigits h
  exact halphabet digit hlt

/-- A field has the value that it was written for. -/
theorem hexValue_hexDigits {width number : ℕ} (h : number < 16 ^ width) :
    hexValue (hexDigits width number) = number := by
  have hread := (hexNumber?_eq_some_iff.1 (hexNumber?_hexDigits h)).2
  rw [Nat.mul_zero, Nat.zero_add] at hread
  exact hread.symm

/-! ### Order -/

/-- Small digits are themselves digits of either case. -/
theorem isHexDigit_of_mem_hexAlphabet {c : Char} (h : c ∈ hexAlphabet) : IsHexDigit c := by
  have hsmall : hexAlphabet.Forall fun d ↦ d.toLower ∈ hexAlphabet := by decide
  exact List.forall_iff_forall_mem.1 hsmall c h

/-- Small digits stand in the order of their values. -/
theorem lt_iff_hexDigitValue_lt {c d : Char} (hc : c ∈ hexAlphabet) (hd : d ∈ hexAlphabet) :
    (c < d ↔ hexDigitValue c < hexDigitValue d) ∧ (c = d ↔ hexDigitValue c = hexDigitValue d) := by
  have hall : hexAlphabet.Forall fun c ↦ hexAlphabet.Forall fun d ↦
      (c < d ↔ hexDigitValue c < hexDigitValue d) ∧
        (c = d ↔ hexDigitValue c = hexDigitValue d) := by
    decide
  exact List.forall_iff_forall_mem.1 (List.forall_iff_forall_mem.1 hall c hc) d hd

/-- Runs of small digits of one length stand in the order of their values. -/
theorem lt_iff_hexValue_lt {xs ys : List Char} (hlength : xs.length = ys.length)
    (hxs : ∀ c ∈ xs, c ∈ hexAlphabet) (hys : ∀ c ∈ ys, c ∈ hexAlphabet) :
    xs < ys ↔ hexValue xs < hexValue ys := by
  induction xs generalizing ys with
  | nil =>
    obtain rfl := List.eq_nil_of_length_eq_zero hlength.symm
    simp
  | cons c xs ih =>
    obtain ⟨d, ys, rfl⟩ := List.exists_cons_of_length_eq_add_one hlength.symm
    obtain ⟨hc, hxs⟩ := List.forall_mem_cons.1 hxs
    obtain ⟨hd, hys⟩ := List.forall_mem_cons.1 hys
    have hlength := Nat.succ.inj hlength
    have hx := hexValue_lt fun x hx ↦ isHexDigit_of_mem_hexAlphabet (hxs x hx)
    have hy := hexValue_lt fun y hy ↦ isHexDigit_of_mem_hexAlphabet (hys y hy)
    have hrest := ih hlength hxs hys
    obtain ⟨hlt, heq⟩ := lt_iff_hexDigitValue_lt hc hd
    rw [hlength] at hx
    rw [List.cons_lt_cons_iff, hlt, heq, hexValue_cons, hexValue_cons, hlength]
    -- The leading digits decide, because what follows them is less than one of their units.
    constructor
    · rintro (hlead | ⟨hlead, hfollow⟩)
      · nlinarith
      · rw [hlead]
        exact Nat.add_lt_add_left (hrest.1 hfollow) _
    · intro hvalue
      rcases Nat.lt_trichotomy (hexDigitValue c) (hexDigitValue d) with hlead | hlead | hlead
      · exact .inl hlead
      · rw [hlead] at hvalue
        exact .inr ⟨hlead, hrest.2 (Nat.lt_of_add_lt_add_left hvalue)⟩
      · nlinarith

end RunningBalance.Text
