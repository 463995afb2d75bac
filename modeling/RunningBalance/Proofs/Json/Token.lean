import RunningBalance.Json.Printer
import RunningBalance.Json.Token
import RunningBalance.Proofs.Decimal
import RunningBalance.Proofs.Text.Hex
import RunningBalance.Proofs.Text.Run

/-!
# Tokens of printed values

Scanning undoes printing, token by token: the escapes of a printed string give its characters back
(`scanOne?_printString`), and a printed number is one token when nothing follows that could go on
with it (`scanOne?_ofInt`, `scanOne?_decimal`). Blanks between tokens make no difference
(`scan_append_of_isBlank`).
-/

set_option autoImplicit false
set_option relaxedAutoImplicit false

namespace RunningBalance.Json.Token

variable {rest : List Char}

/-! ### Strings -/

/-- Four digits after a backslash and the letter u are one unit. -/
theorem scanUnits_inHex {digits : List Char} {missing soFar number : ℕ}
    (hlength : digits.length = missing + 1) (hnumber : Text.hexNumber? soFar digits = some number) :
    scanUnits (.inHex missing soFar) (digits ++ rest) =
      (scanUnits .plain rest).map fun (units, rest) ↦ (number :: units, rest) := by
  induction digits generalizing missing soFar with
  | nil => cases hlength
  | cons c digits ih =>
    rw [Text.hexNumber?] at hnumber
    rw [List.cons_append, scanUnits]
    cases hdigit : Text.hexDigit? c with
    | none => simp only [hdigit, reduceCtorEq] at hnumber
    | some digit =>
      simp only [hdigit] at hnumber
      cases missing with
      | zero =>
        obtain rfl := List.length_eq_zero_iff.1 (Nat.succ.inj hlength)
        cases hnumber
        rfl
      | succ missing => exact ih (Nat.succ.inj hlength) hnumber

/-- However a character is printed, it is scanned as one unit, its code point. -/
theorem scanUnits_printChar (c : Char) :
    scanUnits .plain (printChar c ++ rest) =
      (scanUnits .plain rest).map fun (units, rest) ↦ (c.toNat :: units, rest) := by
  unfold printChar
  split
  · next hc => subst hc; rfl
  split
  · next hc => subst hc; rfl
  split
  · next hc => rw [hc]; rfl
  split
  · next hc => rw [hc]; rfl
  split
  · next hc => rw [hc]; rfl
  split
  · next hc => rw [hc]; rfl
  split
  · next hc => rw [hc]; rfl
  split
  · next hlow =>
    have hnumber : Text.hexNumber? 0 (Text.hexDigits 4 c.toNat) = some c.toNat :=
      Text.hexNumber?_hexDigits (by omega)
    exact scanUnits_inHex (Text.length_hexDigits 4 c.toNat) hnumber
  · next hquote hbackslash _ _ _ _ _ hlow =>
    rw [List.cons_append, List.nil_append, scanUnits, if_neg hquote, if_neg hbackslash, if_neg hlow]

theorem scanUnits_printChars (text : List Char) :
    scanUnits .plain (text.flatMap printChar ++ '"' :: rest) =
      some (text.map Char.toNat, rest) := by
  induction text with
  | nil => rfl
  | cons c text ih =>
    rw [List.flatMap_cons, List.append_assoc, scanUnits_printChar, ih]
    rfl

/-- A character is no half of a surrogate pair. -/
theorem not_surrogate (c : Char) :
    isHighSurrogate c.toNat = false ∧ isLowSurrogate c.toNat = false := by
  have hvalid : c.toNat < 0xD800 ∨ 0xDFFF < c.toNat ∧ c.toNat < 0x110000 := c.valid
  simp only [isHighSurrogate, isLowSurrogate, Bool.and_eq_false_iff, decide_eq_false_iff_not]
  omega

/-- A code unit that is a character adds it to the text. -/
theorem joinUnits?_cons (c : Char) (later : List ℕ) :
    joinUnits? (c.toNat :: later) = (joinUnits? later).map (c :: ·) := by
  obtain ⟨hhigh, hlow⟩ := not_surrogate c
  cases later <;> simp [joinUnits?, hhigh, hlow]

theorem joinUnits?_map_toNat (text : List Char) : joinUnits? (text.map Char.toNat) = some text := by
  induction text with
  | nil => rfl
  | cons c text ih => rw [List.map_cons, joinUnits?_cons, ih, Option.map_some]

/-- A printed string is scanned as a string with its text. -/
theorem scanOne?_printString (value : String) :
    scanOne? (printString value ++ rest) = some (.string (some value), rest) := by
  have hscan : scanOne? (printString value ++ rest) =
      scanString? (value.toList.flatMap printChar ++ '"' :: rest) := by
    rw [printString, List.append_assoc]
    rfl
  simp only [hscan, scanString?, scanUnits_printChars, joinUnits?_map_toNat, Option.map_some,
    String.ofList_toList]

/-! ### Numbers -/

/-- The characters that a number may go on with. -/
def isNumeric (c : Char) : Bool :=
  c.isDigit || c = '.' || c = 'e' || c = 'E'

theorem startsOff_isDigit (hrest : Text.StartsOff isNumeric rest) :
    Text.StartsOff Char.isDigit rest := by
  intro c hc
  have h := hrest c hc
  simp only [isNumeric, Bool.or_eq_false_iff] at h
  exact h.1.1.1

theorem takeWhile_ofNat (n : ℕ) (hrest : Text.StartsOff Char.isDigit rest) :
    (Decimal.ofNat n ++ rest).takeWhile Char.isDigit = Decimal.ofNat n :=
  Text.takeWhile_append_of_forall (fun _ ↦ Decimal.isDigit_of_mem_ofNat) hrest

theorem dropWhile_ofNat (n : ℕ) (hrest : Text.StartsOff Char.isDigit rest) :
    (Decimal.ofNat n ++ rest).dropWhile Char.isDigit = rest :=
  Text.dropWhile_append_of_forall (fun _ ↦ Decimal.isDigit_of_mem_ofNat) hrest

/-- A numeral without needless zeros is the integer part of a number. -/
theorem scanUnsigned?_ofNat {negative : Bool} {n : ℕ} {later after : List Char}
    {fraction : Option (List Char)} {exponent : Option ℤ}
    (hrest : Text.StartsOff Char.isDigit rest)
    (hfraction : scanFraction? rest = some (fraction, later))
    (hexponent : scanExponent? later = some (exponent, after)) :
    scanUnsigned? negative (Decimal.ofNat n ++ rest) =
      some (ofNumber negative (Decimal.ofNat n) fraction exponent, after) := by
  have hwhole : ((Decimal.ofNat n).isEmpty ||
      decide ((Decimal.ofNat n).head? = some '0') && (Decimal.ofNat n).length != 1) = false := by
    rw [Bool.or_eq_false_iff, List.isEmpty_eq_false_iff]
    refine ⟨Decimal.ofNat_ne_nil n, ?_⟩
    rcases eq_or_ne n 0 with rfl | hne
    · decide
    · simp [Decimal.head?_ofNat_ne hne]
  simp [scanUnsigned?, takeWhile_ofNat n hrest, dropWhile_ofNat n hrest, hwhole, hfraction,
    hexponent]

/-- A number without a fraction goes on without one. -/
theorem scanFraction?_of_ne (h : rest.head? ≠ some '.') :
    scanFraction? rest = some (none, rest) := by
  unfold scanFraction?
  split
  · simp at h
  · rfl

/-- A text that starts with no numeric character adds nothing to an integer. -/
theorem scanExponent?_of_startsOff (hrest : Text.StartsOff isNumeric rest) :
    scanExponent? rest = some (none, rest) := by
  unfold scanExponent?
  split
  · next c text =>
    have h := Text.startsOff_cons.1 hrest
    simp only [isNumeric, Bool.or_eq_false_iff, decide_eq_false_iff_not] at h
    rw [if_neg (by simp [h.1.2, h.2])]
  · rfl

theorem head?_ne_point (hrest : Text.StartsOff isNumeric rest) : rest.head? ≠ some '.' := by
  intro hhead
  cases hrest '.' hhead

/-- An exponent is read back. -/
theorem scanExponent?_ofInt (n : ℤ) (hrest : Text.StartsOff Char.isDigit rest) :
    scanExponent? ('e' :: Decimal.ofInt n ++ rest) = some (some n, rest) := by
  have hvalue : (if n < 0 then -(n.natAbs : ℤ) else n.natAbs) = n := by
    split <;> omega
  rw [List.cons_append, scanExponent?, if_pos (by decide), Decimal.splitSign_ofInt_append,
    scanPower?]
  split
  · next hnil => cases Decimal.ofNat_ne_nil _ ((takeWhile_ofNat _ hrest).symm.trans hnil)
  · simp only [takeWhile_ofNat _ hrest, dropWhile_ofNat _ hrest, Decimal.value_ofNat,
      decide_eq_true_eq, hvalue]

/-- A sign in front of a numeral leads to its digits. -/
theorem scanOne?_signed (negative : Bool) (n : ℕ) :
    scanOne? ((if negative then ['-'] else []) ++ (Decimal.ofNat n ++ rest)) =
      scanUnsigned? negative (Decimal.ofNat n ++ rest) := by
  cases negative with
  | true => rfl
  | false =>
    obtain ⟨c, digits, heq, hdigit⟩ := Decimal.exists_ofNat_eq_cons n
    rw [heq, if_neg Bool.false_ne_true, List.nil_append, List.cons_append, scanOne?.eq_def]
    split
    case h_11 =>
      rw [scanNumber?.eq_def]
      split
      · next hminus =>
        obtain ⟨rfl, -⟩ := List.cons.inj hminus
        cases hdigit
      · rfl
    -- The other tokens start with no digit.
    all_goals
      next hother =>
      obtain ⟨rfl, -⟩ := List.cons.inj hother
      cases hdigit

theorem startsOff_isBlank_signed (negative : Bool) (n : ℕ) :
    Text.StartsOff isBlank ((if negative then ['-'] else []) ++ (Decimal.ofNat n ++ rest)) := by
  cases negative with
  | true => exact Text.startsOff_cons.2 (by decide)
  | false =>
    obtain ⟨c, digits, heq, hdigit⟩ := Decimal.exists_ofNat_eq_cons n
    rw [heq]
    refine Text.startsOff_cons.2 (Bool.eq_false_iff.2 fun hblank ↦ ?_)
    simp only [isBlank, Bool.or_eq_true, decide_eq_true_eq] at hblank
    rcases hblank with ((rfl | rfl) | rfl) | rfl
    all_goals cases hdigit

/-- A printed integer is one token. -/
theorem scanOne?_ofInt (n : ℤ) (hrest : Text.StartsOff isNumeric rest) :
    scanOne? (Decimal.ofInt n ++ rest) = some (.integer n, rest) := by
  rw [Decimal.ofInt_eq, List.append_assoc, scanOne?_signed,
    scanUnsigned?_ofNat (startsOff_isDigit hrest) (scanFraction?_of_ne (head?_ne_point hrest))
      (scanExponent?_of_startsOff hrest)]
  simp only [ofNumber, Option.getD_none, List.append_nil, Decimal.value_ofNat, decide_eq_true_eq]
  split
  · next hneg =>
    have hzero : n.natAbs ≠ 0 := by omega
    have hvalue : -(n.natAbs : ℤ) = n := by omega
    rw [if_neg hzero, hvalue]
  · next hpos =>
    have hvalue : (n.natAbs : ℤ) = n := by omega
    rw [hvalue]

/-- A printed decimal fraction is one token. -/
theorem scanOne?_decimal (negative : Bool) (mantissa : ℕ) (exponent : ℤ)
    (hrest : Text.StartsOff isNumeric rest) :
    scanOne? ((if negative then ['-'] else []) ++
        (Decimal.ofNat mantissa ++ ('e' :: Decimal.ofInt exponent ++ rest))) =
      some (.decimal negative mantissa exponent, rest) := by
  have hletter : Text.StartsOff Char.isDigit ('e' :: Decimal.ofInt exponent ++ rest) :=
    Text.startsOff_cons.2 (by decide)
  rw [scanOne?_signed, scanUnsigned?_ofNat hletter (scanFraction?_of_ne (by simp))
    (scanExponent?_ofInt exponent (startsOff_isDigit hrest))]
  simp [ofNumber, Decimal.value_ofNat]

/-! ### Lists of tokens -/

/-- Scanning passes over blanks and takes one token. -/
theorem scan_eq (text : List Char) :
    scan text =
      match text.dropWhile isBlank with
      | [] => []
      | c :: rest =>
        match scanOne? (c :: rest) with
        | none => [.stop]
        | some (token, after) => token :: scan after := by
  rw [scan.eq_def]
  split
  · next hnil => rw [hnil]
  · next c rest hcons =>
    rw [hcons]
    dsimp only
    split
    · next hnone => rw [hnone]
    · next hsome => rw [hsome]

theorem scan_nil : scan [] = [] :=
  scan_eq []

/-- Blanks in front of a text add no tokens. -/
theorem scan_append_of_isBlank {blanks : List Char} (h : ∀ c ∈ blanks, isBlank c = true) :
    scan (blanks ++ rest) = scan rest := by
  rw [scan_eq, List.dropWhile_append_of_pos h, ← scan_eq]

/-- The first token of a text without blanks in front. -/
theorem scan_of_scanOne? {text after : List Char} {token : Token}
    (hstart : Text.StartsOff isBlank text) (hone : scanOne? text = some (token, after)) :
    scan text = token :: scan after := by
  rw [scan_eq, hstart.dropWhile]
  cases text with
  | nil => cases hone
  | cons c rest => simp only [hone]

end RunningBalance.Json.Token
