import RunningBalance.Decimal
import RunningBalance.Text.Blank
import RunningBalance.Text.Hex

/-!
# Tokens of JSON

`Token.scan` splits a text into tokens by the strict grammar: no comments, no needless zeros, no
control characters in strings. Where the text has no token, the list ends with `Token.stop`.
-/

set_option autoImplicit false
set_option relaxedAutoImplicit false

namespace RunningBalance.Json

inductive Token
  | openArray
  | closeArray
  | openObject
  | closeObject
  | comma
  | colon
  | null
  | bool (value : Bool)
  | integer (value : Int)
  | decimal (negative : Bool) (mantissa : Nat) (exponent : Int)
  /-- A string; it has no text when half of a surrogate pair stands alone. -/
  | string (value : Option String)
  | stop
  deriving DecidableEq, Repr

namespace Token

def isBlank (c : Char) : Bool :=
  c = ' ' || c = '\t' || c = '\n' || c = '\r'

/-! ### Strings -/

/-- What a character stands for after a backslash. -/
def escaped? : Char → Option Nat
  | '"' => some 0x22
  | '\\' => some 0x5C
  | '/' => some 0x2F
  | 'b' => some 0x8
  | 'f' => some 0xC
  | 'n' => some 0xA
  | 'r' => some 0xD
  | 't' => some 0x9
  | _ => none

/-- Where in a string the next character stands. -/
inductive Place
  | plain
  | afterBackslash
  /-- Hexadecimal digits are still to come after those already read. -/
  | inHex (missing soFar : Nat)

/-- The code units of a string, from a place in it to its closing quote, and what follows it. An
escape with four digits gives one unit, any other character its code point. -/
def scanUnits : Place → List Char → Option (List Nat × List Char)
  | _, [] => none
  | .plain, c :: rest =>
    if c = '"' then some ([], rest)
    else if c = '\\' then scanUnits .afterBackslash rest
    else if c.toNat < 0x20 then none
    else (scanUnits .plain rest).map fun (units, rest) ↦ (c.toNat :: units, rest)
  | .afterBackslash, c :: rest =>
    if c = 'u' then scanUnits (.inHex 3 0) rest
    else
      match escaped? c with
      | some unit => (scanUnits .plain rest).map fun (units, rest) ↦ (unit :: units, rest)
      | none => none
  | .inHex missing soFar, c :: rest =>
    match Text.hexDigit? c with
    | none => none
    | some digit =>
      match missing with
      | 0 =>
        (scanUnits .plain rest).map fun (units, rest) ↦ ((16 * soFar + digit) :: units, rest)
      | missing + 1 => scanUnits (.inHex missing (16 * soFar + digit)) rest

def isHighSurrogate (unit : Nat) : Bool :=
  0xD800 ≤ unit && unit < 0xDC00

def isLowSurrogate (unit : Nat) : Bool :=
  0xDC00 ≤ unit && unit < 0xE000

/-- The text of code units, in which a high and a low surrogate together are one character. There is
none when a surrogate stands alone. -/
def joinUnits? : List Nat → Option (List Char)
  | [] => some []
  | [unit] =>
    if isHighSurrogate unit || isLowSurrogate unit then none else some [Char.ofNat unit]
  | high :: low :: rest =>
    if isHighSurrogate high then
      if isLowSurrogate low then
        (joinUnits? rest).map
          (Char.ofNat (0x10000 + 0x400 * (high - 0xD800) + (low - 0xDC00)) :: ·)
      else none
    else if isLowSurrogate high then none
    else (joinUnits? (low :: rest)).map (Char.ofNat high :: ·)

/-- A string after its opening quote. -/
def scanString? (text : List Char) : Option (Token × List Char) :=
  (scanUnits .plain text).map fun (units, rest) ↦
    (.string ((joinUnits? units).map String.ofList), rest)

/-! ### Numbers -/

/-- A fraction, if a point comes next; it needs a digit. -/
def scanFraction? : List Char → Option (Option (List Char) × List Char)
  | '.' :: text =>
    match text.takeWhile Char.isDigit with
    | [] => none
    | digits => some (some digits, text.dropWhile Char.isDigit)
  | text => some (none, text)

/-- The digits of an exponent after its sign. -/
def scanPower? (negative : Bool) (text : List Char) : Option (Option Int × List Char) :=
  match text.takeWhile Char.isDigit with
  | [] => none
  | digits =>
    let power : Int := Decimal.value digits
    some (some (if negative then -power else power), text.dropWhile Char.isDigit)

/-- An exponent, if the letter E comes next; it needs a digit. -/
def scanExponent? : List Char → Option (Option Int × List Char)
  | c :: text =>
    if c = 'e' || c = 'E' then
      scanPower? (Decimal.splitSign text).1 (Decimal.splitSign text).2
    else some (none, c :: text)
  | [] => some (none, [])

/-- A number is an integer when it has neither fraction nor exponent and is no negative zero. -/
def ofNumber (negative : Bool) (whole : List Char) (fraction : Option (List Char))
    (exponent : Option Int) : Token :=
  let mantissa := Decimal.value (whole ++ fraction.getD [])
  match fraction, exponent with
  | none, none =>
    if negative then if mantissa = 0 then .decimal true 0 0 else .integer (-mantissa)
    else .integer mantissa
  | _, _ => .decimal negative mantissa (exponent.getD 0 - (fraction.getD []).length)

/-- A number after its sign: the integer part has no needless zero in front. -/
def scanUnsigned? (negative : Bool) (text : List Char) : Option (Token × List Char) :=
  let whole := text.takeWhile Char.isDigit
  if whole.isEmpty || whole.head? = some '0' && whole.length != 1 then none
  else do
    let (fraction, rest) ← scanFraction? (text.dropWhile Char.isDigit)
    let (exponent, rest) ← scanExponent? rest
    pure (ofNumber negative whole fraction exponent, rest)

def scanNumber? : List Char → Option (Token × List Char)
  | '-' :: text => scanUnsigned? true text
  | text => scanUnsigned? false text

/-! ### Any token -/

/-- The token at the start of a text without blanks in front, and the rest of the text. -/
def scanOne? : List Char → Option (Token × List Char)
  | '[' :: rest => some (.openArray, rest)
  | ']' :: rest => some (.closeArray, rest)
  | '\x7b' :: rest => some (.openObject, rest)
  | '\x7d' :: rest => some (.closeObject, rest)
  | ',' :: rest => some (.comma, rest)
  | ':' :: rest => some (.colon, rest)
  | '"' :: rest => scanString? rest
  | 'n' :: rest => (Text.after? ['u', 'l', 'l'] rest).map (.null, ·)
  | 't' :: rest => (Text.after? ['r', 'u', 'e'] rest).map (.bool true, ·)
  | 'f' :: rest => (Text.after? ['a', 'l', 's', 'e'] rest).map (.bool false, ·)
  | text => scanNumber? text

/-! ### The rest of the text is shorter -/

theorem length_scanUnits {place : Place} {text rest : List Char} {units : List Nat}
    (h : scanUnits place text = some (units, rest)) : rest.length < text.length := by
  induction text generalizing place units with
  | nil => simp [scanUnits] at h
  | cons c text ih =>
    simp only [List.length_cons]
    cases place with
    | plain =>
      simp only [scanUnits] at h
      split at h
      · cases h; omega
      · split at h
        · have := ih h; omega
        · split at h
          · cases h
          · obtain ⟨⟨units, rest⟩, hnext, heq⟩ := Option.map_eq_some_iff.1 h
            cases heq; have := ih hnext; omega
    | afterBackslash =>
      simp only [scanUnits] at h
      split at h
      · have := ih h; omega
      · split at h
        · obtain ⟨⟨units, rest⟩, hnext, heq⟩ := Option.map_eq_some_iff.1 h
          cases heq; have := ih hnext; omega
        · cases h
    | inHex missing soFar =>
      simp only [scanUnits] at h
      split at h
      · cases h
      · split at h
        · obtain ⟨⟨units, rest⟩, hnext, heq⟩ := Option.map_eq_some_iff.1 h
          cases heq; have := ih hnext; omega
        · have := ih h; omega

theorem length_scanFraction? {text rest : List Char} {fraction : Option (List Char)}
    (h : scanFraction? text = some (fraction, rest)) : rest.length ≤ text.length := by
  unfold scanFraction? at h
  split at h
  · next text =>
    split at h
    · cases h
    · cases h
      have := (List.dropWhile_suffix (l := text) Char.isDigit).length_le
      simp only [List.length_cons]; omega
  · cases h; exact Nat.le_refl _

theorem length_scanExponent? {text rest : List Char} {exponent : Option Int}
    (h : scanExponent? text = some (exponent, rest)) : rest.length ≤ text.length := by
  unfold scanExponent? at h
  split at h
  · next c text =>
    split at h
    · unfold scanPower? at h
      split at h
      · cases h
      · cases h
        have hdrop :=
          (List.dropWhile_suffix (l := (Decimal.splitSign text).2) Char.isDigit).length_le
        have hsign : (Decimal.splitSign text).2.length ≤ text.length := by
          unfold Decimal.splitSign
          split <;> simp
        simp only [List.length_cons]; omega
    · cases h; exact Nat.le_refl _
  · cases h; exact Nat.le_refl _

theorem length_scanUnsigned? {negative : Bool} {text rest : List Char} {token : Token}
    (h : scanUnsigned? negative text = some (token, rest)) : rest.length < text.length := by
  unfold scanUnsigned? at h
  simp only at h
  split at h
  · cases h
  · next hwhole =>
    obtain ⟨⟨fraction, afterFraction⟩, hfraction, h⟩ := Option.bind_eq_some_iff.1 h
    obtain ⟨⟨exponent, afterExponent⟩, hexponent, h⟩ := Option.bind_eq_some_iff.1 h
    simp only [Option.pure_def, Option.some.injEq, Prod.mk.injEq] at h
    obtain ⟨-, rfl⟩ := h
    have hf := length_scanFraction? hfraction
    have he := length_scanExponent? hexponent
    have hsplit :=
      congrArg List.length (List.takeWhile_append_dropWhile (p := Char.isDigit) (l := text))
    have hpos : 0 < (text.takeWhile Char.isDigit).length := by
      cases hw : text.takeWhile Char.isDigit with
      | nil => simp [hw] at hwhole
      | cons c digits => simp
    rw [List.length_append] at hsplit
    change afterExponent.length ≤ afterFraction.length at he
    omega

theorem length_after? {beginning text rest : List Char}
    (h : Text.after? beginning text = some rest) : rest.length ≤ text.length := by
  induction beginning generalizing text with
  | nil => cases h; exact Nat.le_refl _
  | cons c beginning ih =>
    cases text with
    | nil => cases h
    | cons d text =>
      simp only [Text.after?] at h
      split at h
      · have := ih h; simp only [List.length_cons]; omega
      · cases h

theorem length_scanOne? {text rest : List Char} {token : Token}
    (h : scanOne? text = some (token, rest)) : rest.length < text.length := by
  unfold scanOne? at h
  split at h
  case h_7 =>
    obtain ⟨⟨units, rest⟩, hunits, heq⟩ := Option.map_eq_some_iff.1 h
    cases heq
    have := length_scanUnits hunits
    simp only [List.length_cons]; omega
  case h_8 | h_9 | h_10 =>
    obtain ⟨rest, hafter, heq⟩ := Option.map_eq_some_iff.1 h
    cases heq
    have := length_after? hafter
    simp only [List.length_cons]; omega
  case h_11 =>
    unfold scanNumber? at h
    split at h
    · have := length_scanUnsigned? h
      simp only [List.length_cons]; omega
    · exact length_scanUnsigned? h
  all_goals cases h; simp

/-- The tokens of a text. -/
def scan (text : List Char) : List Token :=
  match _htext : text.dropWhile isBlank with
  | [] => []
  | c :: rest =>
    match _hone : scanOne? (c :: rest) with
    | none => [.stop]
    | some (token, after) => token :: scan after
termination_by text.length
decreasing_by
  have hone := length_scanOne? _hone
  have hdrop := (List.dropWhile_suffix (l := text) isBlank).length_le
  rw [_htext] at hdrop
  omega

end Token

end RunningBalance.Json
