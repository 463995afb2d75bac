import RunningBalance.Proofs.Amount

/-!
# Two readers of amounts

The amount of an event is read strictly, from digits alone, and a stored amount leniently, with a
sign and with underscores between its digits (`Decimal.SpellsInteger`). What the strict reader takes
the lenient one takes for the same number, and of what the lenient one takes the strict one refuses
only texts with a sign or an underscore (`readers_agree`).

Writing undoes both. The texts that are written are the canonical ones, which have no plus sign, no
underscore, no needless zero and no minus sign before zero (`Decimal.isCanonical_iff`), so that
reading and writing a text once more changes nothing.
-/

set_option autoImplicit false
set_option relaxedAutoImplicit false

namespace RunningBalance

namespace Decimal

/-! ### Texts of integers -/

/-- A digit, and then digits and underscores. -/
structure IsParted (digits : List Char) : Prop where
  ne_nil : digits ≠ []
  head_ne : digits.head? ≠ some '_'
  isDigit_or : ∀ c ∈ digits, c.isDigit ∨ c = '_'

/-- An integer is spelled by the digits of its magnitude, with underscores among them or none, after
its sign, which a number that is not negative may lack. -/
inductive SpellsInteger : List Char → ℤ → Prop
  | unsigned {digits : List Char} (h : IsParted digits) :
    SpellsInteger digits (value (digits.filter Char.isDigit))
  | plus {digits : List Char} (h : IsParted digits) :
    SpellsInteger ('+' :: digits) (value (digits.filter Char.isDigit))
  | minus {digits : List Char} (h : IsParted digits) :
    SpellsInteger ('-' :: digits) (-value (digits.filter Char.isDigit))

/-- The texts of integers without anything needless: zero, and digits that do not start with a zero,
alone or after a minus sign. -/
inductive IsCanonical : List Char → Prop
  | zero : IsCanonical ['0']
  | positive {digits : List Char} (hne : digits ≠ []) (hdigits : ∀ c ∈ digits, c.isDigit)
      (hhead : digits.head? ≠ some '0') : IsCanonical digits
  | negative {digits : List Char} (hne : digits ≠ []) (hdigits : ∀ c ∈ digits, c.isDigit)
      (hhead : digits.head? ≠ some '0') : IsCanonical ('-' :: digits)

section Integer

variable {text digits : List Char} {n : ℤ}

/-- Parted digits start with a digit, so they have no sign. -/
theorem IsParted.splitSign_eq (h : IsParted digits) : splitSign digits = (false, digits) := by
  obtain ⟨c, later, rfl⟩ := List.exists_cons_of_ne_nil h.ne_nil
  have hc := h.isDigit_or c List.mem_cons_self
  unfold splitSign
  split
  · next heq =>
    obtain ⟨rfl, -⟩ := List.cons.inj heq
    simp at hc
  · next heq =>
    obtain ⟨rfl, -⟩ := List.cons.inj heq
    simp at hc
  · rfl

/-- What stands behind the sign has to be parted digits. -/
theorem integer_eq_ok_iff_isParted :
    integer text = .ok n ↔ IsParted (splitSign text).2 ∧
      n = if (splitSign text).1 then -(value ((splitSign text).2.filter Char.isDigit) : ℤ)
        else value ((splitSign text).2.filter Char.isDigit) := by
  rw [integer]
  rcases splitSign text with ⟨negative, digits⟩
  dsimp only
  split
  · next hempty => exact iff_of_false (by simp) fun h ↦ h.1.ne_nil (List.isEmpty_iff.1 hempty)
  split
  · next hbad =>
    refine iff_of_false (by simp) fun h ↦ ?_
    rw [Bool.or_eq_true, decide_eq_true_eq, Bool.not_eq_true', List.all_eq_false] at hbad
    rcases hbad with hhead | ⟨c, hc, hother⟩
    · exact h.1.head_ne hhead
    · exact hother (by simpa using h.1.isDigit_or c hc)
  · next hne hgood =>
    have hparted : IsParted digits := by
      simp only [Bool.or_eq_true, not_or, Bool.not_eq_true, Bool.not_eq_false', List.all_eq_true,
        decide_eq_true_eq] at hgood
      exact ⟨fun hnil ↦ hne (List.isEmpty_iff.2 hnil), hgood.1, hgood.2⟩
    rw [Except.ok.injEq, and_iff_right hparted, eq_comm]

/-- Reading a stored integer accepts exactly its texts. -/
theorem integer_eq_ok_iff : integer text = .ok n ↔ SpellsInteger text n := by
  rw [integer_eq_ok_iff_isParted]
  constructor
  · unfold splitSign
    split
    · rintro ⟨hparted, rfl⟩
      exact .minus hparted
    · rintro ⟨hparted, rfl⟩
      exact .plus hparted
    · rintro ⟨hparted, rfl⟩
      exact .unsigned hparted
  · intro h
    cases h with
    | unsigned h =>
      rw [h.splitSign_eq]
      exact ⟨h, rfl⟩
    | plus h => exact ⟨h, rfl⟩
    | minus h => exact ⟨h, rfl⟩

/-- Digits alone spell their value. -/
theorem SpellsInteger.of_forall (hne : text ≠ []) (hdigits : ∀ c ∈ text, c.isDigit) :
    SpellsInteger text (value text) := by
  have hparted : IsParted text := by
    refine ⟨hne, fun hhead ↦ ?_, fun c hc ↦ .inl (hdigits c hc)⟩
    exact absurd (hdigits _ (List.mem_of_mem_head? hhead)) (by decide)
  have hspells := SpellsInteger.unsigned hparted
  rwa [List.filter_eq_self.2 hdigits] at hspells

/-- A text of an integer without a sign and without underscores consists of digits. -/
theorem SpellsInteger.eq_value (h : SpellsInteger text n)
    (hplain : ∀ c ∈ text, c ≠ '+' ∧ c ≠ '-' ∧ c ≠ '_') :
    text ≠ [] ∧ (∀ c ∈ text, c.isDigit) ∧ n = value text := by
  cases h with
  | unsigned h =>
    have hdigits : ∀ c ∈ text, c.isDigit := fun c hc ↦
      (h.isDigit_or c hc).resolve_right (hplain c hc).2.2
    rw [List.filter_eq_self.2 hdigits]
    exact ⟨h.ne_nil, hdigits, rfl⟩
  | plus => exact absurd rfl (hplain '+' List.mem_cons_self).1
  | minus => exact absurd rfl (hplain '-' List.mem_cons_self).2.1

end Integer

/-! ### Canonical texts -/

section Canonical

variable {digits : List Char}

/-- A digit is what is written for its value. -/
theorem ofNat_value_singleton {c : Char} (hc : c.isDigit) : ofNat (value [c]) = [c] := by
  have hlt : value [c] < 10 := value_lt (List.forall_mem_singleton.2 hc)
  have hrange := (Char.isDigit_iff_toNat.1 hc).1
  have hvalue : value [c] = c.toNat - '0'.toNat := by
    rw [value, Nat.ofDigitChars_cons, Nat.ofDigitChars_nil, Nat.mul_zero, Nat.zero_add]
  rw [ofNat, Nat.toDigits_of_lt_base hlt, List.cons.injEq, ← Char.toNat_inj,
    Nat.toNat_digitChar_of_lt_ten hlt, hvalue]
  have hzero : '0'.toNat = 48 := rfl
  exact ⟨by omega, rfl⟩

/-- Digits that do not start with a zero have a value other than zero. -/
theorem value_pos (hdigits : ∀ c ∈ digits, c.isDigit) (hne : digits ≠ [])
    (hhead : digits.head? ≠ some '0') : 0 < value digits := by
  obtain ⟨c, later, rfl⟩ := List.exists_cons_of_ne_nil hne
  have hsingle := ofNat_value_singleton (hdigits c List.mem_cons_self)
  have hpos : 0 < value [c] := by
    refine Nat.pos_of_ne_zero fun hzero ↦ hhead ?_
    rw [hzero] at hsingle
    exact congrArg List.head? hsingle.symm
  rw [← List.singleton_append, value_append]
  exact Nat.add_pos_left (Nat.mul_pos (Nat.pow_pos (by decide)) hpos) _

/-- Digits that do not start with a zero are what is written for their value. -/
theorem ofNat_value (hdigits : ∀ c ∈ digits, c.isDigit) (hne : digits ≠ [])
    (hhead : digits.head? ≠ some '0') : ofNat (value digits) = digits := by
  induction digits using List.reverseRecOn with
  | nil => exact absurd rfl hne
  | append_singleton digits c ih =>
    obtain ⟨hdigits, hc⟩ := List.forall_mem_append.1 hdigits
    have hc := List.forall_mem_singleton.1 hc
    by_cases hnil : digits = []
    · rw [hnil, List.nil_append, ofNat_value_singleton hc]
    · rw [List.head?_append_of_ne_nil _ hnil] at hhead
      have hlt : value [c] < 10 := value_lt (List.forall_mem_singleton.2 hc)
      calc ofNat (value (digits ++ [c])) = ofNat (10 * value digits + value [c]) := by
            rw [value_append, List.length_singleton, pow_one]
        _ = ofNat (value digits) ++ ofNat (value [c]) :=
            (Nat.toDigits_append_toDigits (by decide) (value_pos hdigits hnil hhead) hlt).symm
        _ = digits ++ [c] := by rw [ih hdigits hnil hhead, ofNat_value_singleton hc]

/-- The canonical texts are those that are written. -/
theorem isCanonical_iff {text : List Char} : IsCanonical text ↔ ∃ n, text = ofInt n := by
  constructor
  · intro h
    cases h with
    | zero => exact ⟨0, rfl⟩
    | positive hne hdigits hhead =>
      refine ⟨value text, ?_⟩
      rw [ofInt, if_neg (by omega), Int.natAbs_natCast, ofNat_value hdigits hne hhead]
    | @negative digits hne hdigits hhead =>
      have hpos := value_pos hdigits hne hhead
      refine ⟨-value digits, ?_⟩
      rw [ofInt, if_pos (by omega), Int.natAbs_neg, Int.natAbs_natCast,
        ofNat_value hdigits hne hhead]
  · rintro ⟨n, rfl⟩
    have hdigits : ∀ c ∈ ofNat n.natAbs, c.isDigit := fun _ ↦ isDigit_of_mem_ofNat
    rcases eq_or_ne n 0 with rfl | hn
    · exact .zero
    · have hhead := head?_ofNat_ne (Int.natAbs_ne_zero.2 hn)
      rw [ofInt]
      split
      · exact .negative (ofNat_ne_nil _) hdigits hhead
      · exact .positive (ofNat_ne_nil _) hdigits hhead

end Canonical

end Decimal

namespace Amount

/-- The strict reader takes digits alone, for their value. -/
theorem read?_eq_some_iff_value {text : String} {amount : ℕ} :
    read? text = some amount ↔
      text.toList ≠ [] ∧ (∀ c ∈ text.toList, c.isDigit) ∧ amount = Decimal.value text.toList := by
  rw [read?_eq_some_iff, Denotes, isNumeral_iff, ← value_eq_ofDigits, Bool.or_eq_false_iff,
    List.isEmpty_eq_false_iff, Bool.not_eq_false', List.all_eq_true, and_assoc]

/-- The texts that reading and writing leave as they are. -/
theorem map_write_eq_iff {text : String} :
    (Decimal.integer text.toList).map write = .ok text ↔ Decimal.IsCanonical text.toList := by
  rw [Decimal.isCanonical_iff]
  constructor
  · intro h
    cases hread : Decimal.integer text.toList with
    | error fault =>
      rw [hread] at h
      cases h
    | ok number =>
      rw [hread] at h
      refine ⟨number, ?_⟩
      rw [← Except.ok.inj h, write, String.toList_ofList]
  · rintro ⟨number, htext⟩
    rw [htext, Decimal.integer_ofInt, ← String.ofList_toList (s := text), htext]
    rfl

/-- The strict reader takes exactly the numerals, for the numbers that their digits denote. The
lenient one takes exactly the texts of integers: among them are all numerals, with the same numbers,
and no other text without a sign and an underscore. What is written for a number is taken back, and
a text that is taken is written canonically, which is how reading and writing leave a text as it
is. -/
theorem readers_agree (text : String) :
    ((∃ amount, read? text = some amount) ↔ IsNumeral text) ∧
      (∀ amount, read? text = some amount →
        amount = Nat.ofDigits 10 (digitValues text) ∧
          Decimal.integer text.toList = .ok (amount : ℤ)) ∧
      (∀ number, Decimal.integer text.toList = .ok number ↔
        Decimal.SpellsInteger text.toList number) ∧
      (∀ number, Decimal.integer text.toList = .ok number →
        (∀ c ∈ text.toList, c ≠ '+' ∧ c ≠ '-' ∧ c ≠ '_') →
          ∃ amount : ℕ, read? text = some amount ∧ number = amount) ∧
      (∀ number : ℤ, Decimal.integer (write number).toList = .ok number) ∧
      (∀ number, Decimal.integer text.toList = .ok number →
        Decimal.IsCanonical (write number).toList ∧
          (Decimal.integer (write number).toList).map write = .ok (write number)) ∧
      ((Decimal.integer text.toList).map write = .ok text ↔ Decimal.IsCanonical text.toList) := by
  refine ⟨⟨?_, ?_⟩, fun amount h ↦ ⟨(read?_eq_some_iff.1 h).2, ?_⟩,
    fun _ ↦ Decimal.integer_eq_ok_iff, fun number h hplain ↦ ?_, fun number ↦ ?_,
    fun number _ ↦ ?_, map_write_eq_iff⟩
  · rintro ⟨amount, h⟩
    exact (read?_eq_some_iff.1 h).1
  · exact fun h ↦ ⟨_, read?_eq_some_iff.2 ⟨h, rfl⟩⟩
  · obtain ⟨hne, hdigits, rfl⟩ := read?_eq_some_iff_value.1 h
    exact Decimal.integer_eq_ok_iff.2 (.of_forall hne hdigits)
  · obtain ⟨hne, hdigits, rfl⟩ := (Decimal.integer_eq_ok_iff.1 h).eq_value hplain
    exact ⟨_, read?_eq_some_iff_value.2 ⟨hne, hdigits, rfl⟩, rfl⟩
  · rw [write, String.toList_ofList, Decimal.integer_ofInt]
  · have hcanonical := Decimal.isCanonical_iff.2 ⟨number, String.toList_ofList⟩
    exact ⟨hcanonical, map_write_eq_iff.2 hcanonical⟩

/-- Zeros in front and underscores between the digits do not count: `00042` is forty-two to both
readers, and `-0_7` is minus seven to one of them, which is written without either. -/
theorem sample_readers :
    read? "00042" = some 42 ∧ Decimal.integer "00042".toList = .ok 42 ∧
      Decimal.integer "-0_7".toList = .ok (-7) ∧ Decimal.IsCanonical (write (-7)).toList ∧
      (Decimal.integer (write (-7)).toList).map write = .ok (write (-7)) := by
  have hzeros : read? "00042" = some 42 := by decide +kernel
  have hsigned : Decimal.integer "-0_7".toList = .ok (-7) := by decide +kernel
  obtain ⟨-, hagree, -⟩ := readers_agree "00042"
  obtain ⟨-, -, -, -, -, hround, -⟩ := readers_agree "-0_7"
  exact ⟨hzeros, (hagree 42 hzeros).2, hsigned, hround (-7) hsigned⟩

end Amount

end RunningBalance
