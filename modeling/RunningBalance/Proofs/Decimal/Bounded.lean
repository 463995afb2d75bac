import RunningBalance.Proofs.Decimal

/-!
# Numbers below a limit

A text spells a number below a limit if it consists of the digits of the number, with a plus sign
before them or none (`SpellsBelow`); leading zeros do not count. `bounded_eq_ok_iff` says that
exactly these texts are read. Of any other text the first character decides that is no digit or
carries the number to the limit (`Refused`, `bounded_eq_error_iff`).
-/

set_option autoImplicit false
set_option relaxedAutoImplicit false

namespace RunningBalance.Decimal

/-- Digits, at least one, with a plus sign before them or none, whose value is below the limit. -/
def SpellsBelow (limit : ℕ) (text : List Char) (n : ℕ) : Prop :=
  ∃ digits, (text = digits ∨ text = '+' :: digits) ∧ digits ≠ [] ∧ (∀ c ∈ digits, c.isDigit) ∧
    value digits = n ∧ n < limit

/-- What follows a plus sign, if the text starts with one. -/
def dropPlus : List Char → List Char
  | '+' :: rest => rest
  | text => text

/-- Why a text is refused. -/
inductive Refused (limit : ℕ) (text : List Char) : Fault → Prop
  | empty (htext : text = []) : Refused limit text .empty
  | plus (htext : text = ['+']) : Refused limit text .digit
  | digit {digits later : List Char} {c : Char} (htext : dropPlus text = digits ++ c :: later)
      (hdigits : ∀ d ∈ digits, d.isDigit) (hlt : value digits < limit) (hc : ¬c.isDigit) :
    Refused limit text .digit
  | tooLarge {digits later : List Char} {c : Char} (htext : dropPlus text = digits ++ c :: later)
      (hdigits : ∀ d ∈ digits, d.isDigit) (hlt : value digits < limit) (hc : c.isDigit)
      (hge : limit ≤ value (digits ++ [c])) : Refused limit text .tooLarge

section Bounded

variable {limit soFar n : ℕ} {text digits : List Char} {cause : Fault}

/-- Digits that stay below the limit are read before what follows them. -/
theorem boundedFrom_append (hdigits : ∀ c ∈ digits, c.isDigit)
    (hlt : Nat.ofDigitChars 10 digits soFar < limit) (later : List Char) :
    boundedFrom limit soFar (digits ++ later) =
      boundedFrom limit (Nat.ofDigitChars 10 digits soFar) later := by
  induction digits generalizing soFar with
  | nil => rfl
  | cons c digits ih =>
    obtain ⟨hc, hmore⟩ := List.forall_mem_cons.1 hdigits
    rw [Nat.ofDigitChars_cons] at hlt ⊢
    have hnext := Nat.lt_of_le_of_lt (le_ofDigitChars digits _) hlt
    rw [List.cons_append, boundedFrom, hc, if_neg (by decide), if_pos hnext, ih hmore hlt]

/-- Apart from the empty text and a lone plus sign, what follows a plus sign is read digit by
digit. -/
theorem bounded_eq_boundedFrom (hne : dropPlus text ≠ []) :
    bounded limit text = boundedFrom limit 0 (dropPlus text) := by
  by_cases hsign : ∃ digits, text = '+' :: digits
  · obtain ⟨digits, rfl⟩ := hsign
    exact bounded.eq_3 limit digits hne
  · rw [not_exists] at hsign
    have hdrop : dropPlus text = text := dropPlus.eq_2 text hsign
    rw [hdrop] at hne ⊢
    exact bounded.eq_4 limit text hne (hsign []) hsign

theorem eq_or_eq_cons_dropPlus (text : List Char) :
    text = dropPlus text ∨ text = '+' :: dropPlus text := by
  rw [dropPlus.eq_def]
  split
  · exact .inr rfl
  · exact .inl rfl

theorem bounded_eq_ok_of_spellsBelow (h : SpellsBelow limit text n) :
    bounded limit text = .ok n := by
  obtain ⟨digits, htext, hne, hdigits, rfl, hlt⟩ := h
  rw [bounded_eq (Nat.zero_lt_of_lt hlt) hdigits hne htext, if_pos hlt]

theorem bounded_eq_error_of_refused (h : Refused limit text cause) :
    bounded limit text = .error cause := by
  cases h with
  | empty htext => rw [htext, bounded]
  | plus htext => rw [htext, bounded]
  | digit htext hdigits hlt hc =>
    rw [bounded_eq_boundedFrom (by simp [htext]), htext, boundedFrom_append hdigits hlt,
      boundedFrom, if_pos (by simpa using hc)]
  | @tooLarge digits later c htext hdigits hlt hc hge =>
    have hnext : 10 * value digits + (c.toNat - '0'.toNat) = value (digits ++ [c]) := by
      rw [value, value, Nat.ofDigitChars_append, Nat.ofDigitChars_cons, Nat.ofDigitChars_nil]
    rw [bounded_eq_boundedFrom (by simp [htext]), htext, boundedFrom_append hdigits hlt,
      boundedFrom, hc, if_neg (by decide), ← value, hnext, if_neg (Nat.not_lt.2 hge)]

/-- A text consists of digits that stay below the limit, or one of its characters is the first that
is no digit or carries the number to the limit. -/
theorem digits_or_exists_bad (hlimit : 0 < limit) (text : List Char) :
    ((∀ c ∈ text, c.isDigit) ∧ value text < limit) ∨
      ∃ digits c later, text = digits ++ c :: later ∧ (∀ d ∈ digits, d.isDigit) ∧
        value digits < limit ∧ (c.isDigit → limit ≤ value (digits ++ [c])) := by
  induction text using List.reverseRecOn with
  | nil => exact .inl ⟨List.forall_mem_nil _, hlimit⟩
  | append_singleton text c ih =>
    rcases ih with ⟨hdigits, hlt⟩ | ⟨digits, d, later, rfl, hbad⟩
    · by_cases hc : c.isDigit → limit ≤ value (text ++ [c])
      · exact .inr ⟨text, c, [], rfl, hdigits, hlt, hc⟩
      · rw [Classical.not_imp, Nat.not_le] at hc
        exact .inl ⟨List.forall_mem_append.2 ⟨hdigits, List.forall_mem_singleton.2 hc.1⟩, hc.2⟩
    · exact .inr ⟨digits, d, later ++ [c], by simp, hbad⟩

theorem spellsBelow_or_refused (hlimit : 0 < limit) (text : List Char) :
    (∃ n, SpellsBelow limit text n) ∨ ∃ cause, Refused limit text cause := by
  have htext := eq_or_eq_cons_dropPlus text
  by_cases hne : dropPlus text = []
  · rw [hne] at htext
    rcases htext with htext | htext
    · exact .inr ⟨_, .empty htext⟩
    · exact .inr ⟨_, .plus htext⟩
  · rcases digits_or_exists_bad hlimit (dropPlus text) with
      ⟨hdigits, hlt⟩ | ⟨digits, c, later, hsplit, hdigits, hlt, hbad⟩
    · exact .inl ⟨_, _, htext, hne, hdigits, rfl, hlt⟩
    · by_cases hc : c.isDigit
      · exact .inr ⟨_, .tooLarge hsplit hdigits hlt hc (hbad hc)⟩
      · exact .inr ⟨_, .digit hsplit hdigits hlt hc⟩

/-- A number is read from the texts that spell it. -/
theorem bounded_eq_ok_iff (hlimit : 0 < limit) :
    bounded limit text = .ok n ↔ SpellsBelow limit text n := by
  refine ⟨fun h ↦ ?_, bounded_eq_ok_of_spellsBelow⟩
  rcases spellsBelow_or_refused hlimit text with ⟨m, hspells⟩ | ⟨cause, hrefused⟩
  · cases (bounded_eq_ok_of_spellsBelow hspells).symm.trans h
    exact hspells
  · cases (bounded_eq_error_of_refused hrefused).symm.trans h

/-- A fault is found in the texts that are refused for it. -/
theorem bounded_eq_error_iff (hlimit : 0 < limit) :
    bounded limit text = .error cause ↔ Refused limit text cause := by
  refine ⟨fun h ↦ ?_, bounded_eq_error_of_refused⟩
  rcases spellsBelow_or_refused hlimit text with ⟨m, hspells⟩ | ⟨other, hrefused⟩
  · cases (bounded_eq_ok_of_spellsBelow hspells).symm.trans h
  · cases (bounded_eq_error_of_refused hrefused).symm.trans h
    exact hrefused

end Bounded

end RunningBalance.Decimal
