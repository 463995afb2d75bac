import RunningBalance.Proofs.Decimal
import RunningBalance.Proofs.Text.Run
import RunningBalance.Timestamp.Reader

/-!
# How the items of a layout read on

An item takes characters from the start of a text and leaves the rest. What it takes does not change
when the text goes on with something that neither continues a number or a fraction nor is blank
(`Ends`): the addition is left with the rest (`readItem?_append`, `readItems?_append`). The numbers
that a layout finds in a whole text are its `Layout.parts?`, of which the instant is made, and each
item changes one of them at most (`parts_of_readItem?`).
-/

set_option autoImplicit false
set_option relaxedAutoImplicit false

namespace RunningBalance.Timestamp

open Text (StartsOff)

/-- The text starts with no digit, blank or point: what an item reads before it ends there. -/
structure Ends (suffix : List Char) : Prop where
  digit : StartsOff Char.isDigit suffix
  blank : StartsOff Text.isBlank suffix
  point : StartsOff (· = '.') suffix

theorem ends_cons {c : Char} {text : List Char} (hdigit : c.isDigit = false)
    (hblank : Text.isBlank c = false) (hpoint : c ≠ '.') : Ends (c :: text) where
  digit := Text.startsOff_cons.2 hdigit
  blank := Text.startsOff_cons.2 hblank
  point := Text.startsOff_cons.2 (decide_eq_false hpoint)

/-! ### Runs of digits -/

section Digits

variable {text rest suffix digits : List Char}

theorem leadingDigits?_eq_some_iff :
    leadingDigits? text = some (digits, rest) ↔
      digits ≠ [] ∧ digits = text.takeWhile Char.isDigit ∧ rest = text.dropWhile Char.isDigit := by
  unfold leadingDigits?
  split
  · next hnone => simp +contextual [hnone]
  · next hsome =>
    simp only [Option.some.injEq, Prod.mk.injEq]
    constructor
    · rintro ⟨rfl, rfl⟩
      exact ⟨hsome, rfl, rfl⟩
    · rintro ⟨-, rfl, rfl⟩
      exact ⟨rfl, rfl⟩

theorem leadingDigits?_append (hsuffix : StartsOff Char.isDigit suffix)
    (h : leadingDigits? text = some (digits, rest)) :
    leadingDigits? (text ++ suffix) = some (digits, rest ++ suffix) := by
  rw [leadingDigits?_eq_some_iff] at h ⊢
  rw [Text.takeWhile_append_of_startsOff hsuffix, Text.dropWhile_append_of_startsOff hsuffix]
  exact ⟨h.1, h.2.1, congrArg (· ++ suffix) h.2.2⟩

/-- All digits are read where no other digit follows. -/
theorem leadingDigits?_of_forall (hne : digits ≠ []) (hdigits : ∀ c ∈ digits, c.isDigit = true)
    (hrest : StartsOff Char.isDigit rest) :
    leadingDigits? (digits ++ rest) = some (digits, rest) := by
  rw [leadingDigits?_eq_some_iff, Text.takeWhile_append_of_forall hdigits hrest,
    Text.dropWhile_append_of_forall hdigits hrest]
  exact ⟨hne, rfl, rfl⟩

theorem fewDigits?_eq_some_iff {most : Nat} :
    fewDigits? most text = some (digits, rest) ↔
      digits ≠ [] ∧ digits = (text.take most).takeWhile Char.isDigit ∧
        rest = text.drop digits.length := by
  simp only [fewDigits?, Option.map_eq_some_iff, Prod.exists, leadingDigits?_eq_some_iff,
    Prod.mk.injEq]
  constructor
  · rintro ⟨_, _, ⟨hne, hdigits, -⟩, rfl, rfl⟩
    exact ⟨hne, hdigits, rfl⟩
  · rintro ⟨hne, hdigits, rfl⟩
    exact ⟨_, _, ⟨hne, hdigits, rfl⟩, rfl, rfl⟩

theorem fewDigits?_append {most : Nat} (hsuffix : StartsOff Char.isDigit suffix)
    (h : fewDigits? most text = some (digits, rest)) :
    fewDigits? most (text ++ suffix) = some (digits, rest ++ suffix) := by
  rw [fewDigits?_eq_some_iff] at h ⊢
  obtain ⟨hne, hdigits, rfl⟩ := h
  have htake : StartsOff Char.isDigit (suffix.take (most - text.length)) := by
    intro c hc
    refine hsuffix c ?_
    rw [List.head?_take] at hc
    split at hc
    · cases hc
    · exact hc
  have hlength : digits.length ≤ text.length := by
    rw [hdigits]
    exact (List.takeWhile_prefix Char.isDigit).length_le.trans (List.length_take_le' most text)
  refine ⟨hne, ?_, (List.drop_append_of_le_length hlength).symm⟩
  rw [List.take_append, Text.takeWhile_append_of_startsOff htake, ← hdigits]

theorem fixedDigits?_eq_some_iff {width number : ℕ} :
    fixedDigits? width text = some (number, rest) ↔
      ∃ digits, text = digits ++ rest ∧ digits.length = width ∧ (∀ c ∈ digits, c.isDigit) ∧
        number = Decimal.value digits := by
  unfold fixedDigits?
  constructor
  · intro h
    split at h
    · next hdigits =>
      cases h
      rw [Bool.and_eq_true, decide_eq_true_eq, List.all_eq_true] at hdigits
      exact ⟨text.take width, (List.take_append_drop width text).symm, hdigits.1, hdigits.2, rfl⟩
    · cases h
  · rintro ⟨digits, rfl, rfl, hdigits, rfl⟩
    rw [List.take_left, List.drop_left, if_pos]
    simpa using hdigits

theorem fixedDigits?_append {width number : ℕ}
    (h : fixedDigits? width text = some (number, rest)) :
    fixedDigits? width (text ++ suffix) = some (number, rest ++ suffix) := by
  rw [fixedDigits?_eq_some_iff] at h ⊢
  obtain ⟨digits, rfl, hdigits⟩ := h
  exact ⟨digits, List.append_assoc .., hdigits⟩

/-- A number written with zeros in front is read back. -/
theorem fixedDigits?_padded {width number : ℕ} (hwidth : 0 < width) (h : number < 10 ^ width) :
    fixedDigits? width (Decimal.padded width number ++ rest) = some (number, rest) :=
  fixedDigits?_eq_some_iff.2 ⟨_, rfl, Decimal.length_padded hwidth h,
    fun _ ↦ Decimal.isDigit_of_mem_padded, (Decimal.value_padded width number).symm⟩

end Digits

/-! ### Numbers of a field -/

/-- The most digits of a number of a field that has no sign. -/
def Field.width : Field → ℕ
  | .year => 4
  | _ => 2

section Numbers

variable {field : Field} {n : ℤ} {c : Char} {text rest suffix : List Char}

/-- Only a year may have a sign; a number without one has as many digits as its field allows. -/
theorem readNumber?_eq_fewDigits? (hsign : field = .year → c ≠ '-' ∧ c ≠ '+') :
    readNumber? field (c :: text) =
      (fewDigits? field.width (c :: text)).map fun (digits, rest) ↦
        ((Decimal.value digits : ℤ), rest) := by
  cases field with
  | year =>
    obtain ⟨hminus, hplus⟩ := hsign rfl
    rw [readNumber?]
    · rfl
    · rintro _ heq
      exact hminus (List.cons.inj heq).1
    · rintro _ heq
      exact hplus (List.cons.inj heq).1
  | _ => rfl

/-- A number starts with a digit, or a year with a sign. -/
theorem exists_of_readNumber? (h : readNumber? field text = some (n, rest)) :
    ∃ c later, text = c :: later ∧
      (c.isDigit = true ∨ field = .year ∧ (c = '-' ∨ c = '+')) := by
  cases text with
  | nil => cases field <;> cases h
  | cons c later =>
    refine ⟨c, later, rfl, ?_⟩
    by_cases hsign : field = .year ∧ (c = '-' ∨ c = '+')
    · exact .inr hsign
    · rw [readNumber?_eq_fewDigits? (by tauto), Option.map_eq_some_iff] at h
      obtain ⟨⟨digits, _⟩, hread, -⟩ := h
      obtain ⟨hne, hdigits, -⟩ := fewDigits?_eq_some_iff.1 hread
      left
      by_contra hdigit
      refine hne (hdigits.trans ?_)
      cases field <;> simp [Field.width, hdigit]

theorem readNumber?_append (hsuffix : StartsOff Char.isDigit suffix)
    (h : readNumber? field text = some (n, rest)) :
    readNumber? field (text ++ suffix) = some (n, rest ++ suffix) := by
  obtain ⟨c, later, rfl, -⟩ := exists_of_readNumber? h
  rw [List.cons_append]
  by_cases hsign : field = .year ∧ (c = '-' ∨ c = '+')
  · obtain ⟨rfl, rfl | rfl⟩ := hsign
    all_goals
      obtain ⟨⟨digits, _⟩, hread, heq⟩ := Option.map_eq_some_iff.1 h
      cases heq
      exact Option.map_eq_some_iff.2 ⟨_, leadingDigits?_append hsuffix hread, rfl⟩
  · have hunsigned : field = .year → c ≠ '-' ∧ c ≠ '+' := by tauto
    rw [readNumber?_eq_fewDigits? hunsigned] at h ⊢
    obtain ⟨⟨digits, _⟩, hread, heq⟩ := Option.map_eq_some_iff.1 h
    cases heq
    exact Option.map_eq_some_iff.2 ⟨_, fewDigits?_append hsuffix hread, rfl⟩

end Numbers

/-! ### Offsets -/

section Offsets

variable {text rest suffix : List Char}

theorem readSign?_eq_some_iff {negative : Bool} :
    readSign? text = some (negative, rest) ↔
      ∃ c, text = c :: rest ∧ (c = '+' ∧ negative = false ∨
        (c = '-' ∨ c = '\u2212') ∧ negative = true) := by
  unfold readSign?
  constructor
  · intro h
    split at h
    · cases h
      exact ⟨_, rfl, .inl ⟨rfl, rfl⟩⟩
    · cases h
      exact ⟨_, rfl, .inr ⟨.inl rfl, rfl⟩⟩
    · cases h
      exact ⟨_, rfl, .inr ⟨.inr rfl, rfl⟩⟩
    · cases h
  · rintro ⟨c, rfl, ⟨rfl, rfl⟩ | ⟨rfl | rfl, rfl⟩⟩ <;> rfl

/-- An offset is a sign, the hours, what stands between, and the minutes. -/
theorem readOffset?_eq_some_iff {separator? : List Char → Option (List Char)} {offset : ℤ} :
    readOffset? separator? text = some (offset, rest) ↔
      ∃ negative afterSign hours afterHours beforeMinutes minutes,
        readSign? text = some (negative, afterSign) ∧
        fixedDigits? 2 afterSign = some (hours, afterHours) ∧
        separator? afterHours = some beforeMinutes ∧
        fixedDigits? 2 beforeMinutes = some (minutes, rest) ∧ minutes < 60 ∧
        offset = if negative then -(3600 * hours + 60 * minutes : ℤ)
          else 3600 * hours + 60 * minutes := by
  unfold readOffset?
  constructor
  · intro h
    obtain ⟨⟨negative, afterSign⟩, hsign, h⟩ := Option.bind_eq_some_iff.1 h
    obtain ⟨⟨hours, afterHours⟩, hhours, h⟩ := Option.bind_eq_some_iff.1 h
    obtain ⟨beforeMinutes, hseparator, h⟩ := Option.bind_eq_some_iff.1 h
    obtain ⟨⟨minutes, afterMinutes⟩, hminutes, h⟩ := Option.bind_eq_some_iff.1 h
    obtain ⟨_, hguard, h⟩ := Option.bind_eq_some_iff.1 h
    have hlt : minutes < 60 := by
      by_contra hlt
      simp [guard, hlt] at hguard
    cases h
    exact ⟨_, _, _, _, _, _, hsign, hhours, hseparator, hminutes, hlt, rfl⟩
  · rintro ⟨negative, afterSign, hours, afterHours, beforeMinutes, minutes, hsign, hhours,
      hseparator, hminutes, hlt, rfl⟩
    have hguard : (guard (minutes < 60) : Option Unit) = some () := if_pos hlt
    simp [hsign, hhours, hseparator, hminutes, hguard]

theorem readOffset?_append {separator? : List Char → Option (List Char)} {offset : ℤ}
    (hseparator : ∀ {text rest : List Char}, separator? text = some rest → rest ≠ [] →
      separator? (text ++ suffix) = some (rest ++ suffix))
    (h : readOffset? separator? text = some (offset, rest)) :
    readOffset? separator? (text ++ suffix) = some (offset, rest ++ suffix) := by
  rw [readOffset?_eq_some_iff] at h ⊢
  obtain ⟨negative, afterSign, hours, afterHours, beforeMinutes, minutes, hsign, hhours,
    hbetween, hminutes, hoffset⟩ := h
  refine ⟨negative, afterSign ++ suffix, hours, afterHours ++ suffix, beforeMinutes ++ suffix,
    minutes, ?_, fixedDigits?_append hhours, hseparator hbetween ?_, fixedDigits?_append hminutes,
    hoffset⟩
  · rw [readSign?_eq_some_iff] at hsign ⊢
    obtain ⟨c, rfl, hc⟩ := hsign
    exact ⟨c, rfl, hc⟩
  · rintro rfl
    cases hminutes

/-- An offset is a number of whole minutes. -/
theorem mod_of_readOffset? {separator? : List Char → Option (List Char)} {offset : ℤ}
    (h : readOffset? separator? text = some (offset, rest)) : offset % 60 = 0 := by
  obtain ⟨negative, -, hours, -, -, minutes, -, -, -, -, -, rfl⟩ := readOffset?_eq_some_iff.1 h
  split <;> omega

end Offsets

/-! ### Items -/

section Items

variable {parts parts' : Parts} {text rest suffix : List Char}

/-- Where no point comes next there is no fraction. -/
theorem readItem?_fraction_of_startsOff (htext : StartsOff (· = '.') text) :
    readItem? parts text .fraction = some (parts, text) := by
  rw [readItem?]
  rintro rest rfl
  exact absurd (Text.startsOff_cons.1 htext) (by decide)

/-- A zone is the letter Z or an offset with a colon. -/
theorem readItem?_zone_eq_some_iff :
    readItem? parts text .zone = some (parts', rest) ↔
      (∃ c, (c = 'Z' ∨ c = 'z') ∧ text = c :: rest ∧ parts' = parts) ∨
        ∃ offset, readOffset? (Text.after? [':']) text = some (offset, rest) ∧
          parts' = { parts with offset } := by
  constructor
  · intro h
    simp only [readItem?] at h
    split at h
    · cases h
      exact .inl ⟨_, .inl rfl, rfl, rfl⟩
    · cases h
      exact .inl ⟨_, .inr rfl, rfl, rfl⟩
    · obtain ⟨⟨offset, _⟩, hread, heq⟩ := Option.map_eq_some_iff.1 h
      cases heq
      exact .inr ⟨offset, hread, rfl⟩
  · rintro (⟨c, rfl | rfl, rfl, rfl⟩ | ⟨offset, hread, rfl⟩)
    · rfl
    · rfl
    · obtain ⟨negative, afterSign, -, -, -, -, hsign, -⟩ := readOffset?_eq_some_iff.1 hread
      obtain ⟨c, rfl, ⟨rfl, -⟩ | ⟨rfl | rfl, -⟩⟩ := readSign?_eq_some_iff.1 hsign
      all_goals exact Option.map_eq_some_iff.2 ⟨_, hread, rfl⟩

/-- All that an item can change: a field, the fraction of a second, or the offset, if it reads
one. -/
theorem parts_of_readItem? {item : Item} (h : readItem? parts text item = some (parts', rest)) :
    parts' = parts ∨ (∃ field n, parts' = parts.set field n) ∨
      (∃ digits, (∀ c ∈ digits, c.isDigit = true) ∧
        parts' = { parts with nanos := nanosOf digits }) ∨
      (item = .offset ∨ item = .zone) ∧
        ∃ offset, offset % 60 = 0 ∧ parts' = { parts with offset } := by
  cases item with
  | number field | digits field width =>
    obtain ⟨⟨n, _⟩, -, heq⟩ := Option.map_eq_some_iff.1 h
    cases heq
    exact .inr (.inl ⟨field, n, rfl⟩)
  | oneOf choices =>
    cases text with
    | nil => cases h
    | cons c text =>
      simp only [readItem?, Option.ite_none_right_eq_some] at h
      cases h.2
      exact .inl rfl
  | blanks =>
    cases h
    exact .inl rfl
  | fraction =>
    simp only [readItem?] at h
    split at h
    · obtain ⟨⟨digits, _⟩, hread, heq⟩ := Option.map_eq_some_iff.1 h
      cases heq
      obtain ⟨-, rfl, -⟩ := leadingDigits?_eq_some_iff.1 hread
      exact .inr (.inr (.inl ⟨_, fun c hc ↦ List.mem_takeWhile_imp hc, rfl⟩))
    · cases h
      exact .inl rfl
  | offset =>
    obtain ⟨⟨offset, _⟩, hread, heq⟩ := Option.map_eq_some_iff.1 h
    cases heq
    exact .inr (.inr (.inr ⟨.inl rfl, offset, mod_of_readOffset? hread, rfl⟩))
  | zone =>
    rcases readItem?_zone_eq_some_iff.1 h with ⟨c, -, -, rfl⟩ | ⟨offset, hread, rfl⟩
    · exact .inl rfl
    · exact .inr (.inr (.inr ⟨.inr rfl, offset, mod_of_readOffset? hread, rfl⟩))

/-- What an item reads does not change when the text goes on with something that ends it. -/
theorem readItem?_append {item : Item} (hsuffix : Ends suffix)
    (h : readItem? parts text item = some (parts', rest)) :
    readItem? parts (text ++ suffix) item = some (parts', rest ++ suffix) := by
  cases item with
  | number field =>
    obtain ⟨⟨n, _⟩, hread, heq⟩ := Option.map_eq_some_iff.1 h
    cases heq
    refine Option.map_eq_some_iff.2 ⟨(n, rest ++ suffix), ?_, rfl⟩
    rw [Text.trimStart, Text.dropWhile_append_of_startsOff hsuffix.blank]
    exact readNumber?_append hsuffix.digit hread
  | digits field width =>
    obtain ⟨⟨n, _⟩, hread, heq⟩ := Option.map_eq_some_iff.1 h
    cases heq
    exact Option.map_eq_some_iff.2 ⟨(n, rest ++ suffix), fixedDigits?_append hread, rfl⟩
  | oneOf choices =>
    cases text with
    | nil => cases h
    | cons c text =>
      simp only [readItem?, List.cons_append] at h ⊢
      split at h
      · next hmem =>
        cases h
        rw [if_pos hmem]
      · cases h
  | blanks =>
    cases h
    simp only [readItem?, Text.trimStart, Text.dropWhile_append_of_startsOff hsuffix.blank]
  | fraction =>
    cases text with
    | nil =>
      cases h
      exact readItem?_fraction_of_startsOff hsuffix.point
    | cons c later =>
      by_cases hpoint : c = '.'
      · subst hpoint
        obtain ⟨⟨digits, _⟩, hread, heq⟩ := Option.map_eq_some_iff.1 h
        cases heq
        exact Option.map_eq_some_iff.2
          ⟨(digits, rest ++ suffix), leadingDigits?_append hsuffix.digit hread, rfl⟩
      · have hstarts {later : List Char} : StartsOff (· = '.') (c :: later) :=
          Text.startsOff_cons.2 (decide_eq_false hpoint)
        rw [readItem?_fraction_of_startsOff hstarts] at h
        cases h
        exact readItem?_fraction_of_startsOff hstarts
  | offset =>
    obtain ⟨⟨offset, _⟩, hread, heq⟩ := Option.map_eq_some_iff.1 h
    cases heq
    refine Option.map_eq_some_iff.2 ⟨(offset, rest ++ suffix), ?_, rfl⟩
    rw [Text.trimStart, Text.dropWhile_append_of_startsOff hsuffix.blank]
    refine readOffset?_append (fun hseparator hne ↦ ?_) hread
    cases hseparator
    rw [Text.dropWhile_append_of_ne_nil hne]
  | zone =>
    rw [readItem?_zone_eq_some_iff] at h ⊢
    rcases h with ⟨c, hc, rfl, rfl⟩ | ⟨offset, hread, rfl⟩
    · exact .inl ⟨c, hc, rfl, rfl⟩
    · exact .inr ⟨offset, readOffset?_append (fun hafter _ ↦ Text.after?_append hafter) hread, rfl⟩

theorem readItems?_cons_eq_some_iff {item : Item} {items : List Item} {result : Parts × List Char} :
    readItems? (item :: items) parts text = some result ↔
      ∃ next rest, readItem? parts text item = some (next, rest) ∧
        readItems? items next rest = some result := by
  rw [readItems?]
  cases readItem? parts text item with
  | none => simp
  | some read =>
    constructor
    · intro h
      exact ⟨read.1, read.2, rfl, h⟩
    · rintro ⟨_, _, heq, h⟩
      cases heq
      exact h

/-- Lists of items are read one after the other. -/
theorem readItems?_append_items {items others : List Item} {result : Parts × List Char}
    (h : readItems? items parts text = some (parts', rest))
    (hothers : readItems? others parts' rest = some result) :
    readItems? (items ++ others) parts text = some result := by
  induction items generalizing parts text with
  | nil =>
    cases h
    exact hothers
  | cons item items ih =>
    obtain ⟨next, left, hitem, hitems⟩ := readItems?_cons_eq_some_iff.1 h
    exact readItems?_cons_eq_some_iff.2 ⟨next, left, hitem, ih hitems⟩

/-- What items read does not change when the text goes on with something that ends them. -/
theorem readItems?_append {items : List Item} (hsuffix : Ends suffix)
    (h : readItems? items parts text = some (parts', rest)) :
    readItems? items parts (text ++ suffix) = some (parts', rest ++ suffix) := by
  induction items generalizing parts text with
  | nil =>
    cases h
    rfl
  | cons item items ih =>
    obtain ⟨next, left, hitem, hitems⟩ := readItems?_cons_eq_some_iff.1 h
    exact readItems?_cons_eq_some_iff.2
      ⟨next, left ++ suffix, readItem?_append hsuffix hitem, ih hitems⟩

end Items

/-! ### Layouts -/

section Layouts

variable {layout : Layout} {parts : Parts} {text : List Char}

/-- The text that the items of a layout have to match. -/
def Layout.body (layout : Layout) (text : List Char) : List Char :=
  if layout.zulu then dropZulu text else text

/-- The numbers of a text that a layout matches to its end. -/
def Layout.parts? (layout : Layout) (text : List Char) : Option Parts :=
  match readItems? layout.items {} (layout.body text) with
  | some (parts, []) => some parts
  | _ => none

theorem Layout.parts?_eq_some_iff :
    layout.parts? text = some parts ↔
      readItems? layout.items {} (layout.body text) = some (parts, []) := by
  rw [Layout.parts?]
  split
  · next heq => simp [heq]
  · next hne => simpa using hne parts

/-- A layout gives the instant of the numbers that it finds. -/
theorem Layout.read?_eq : layout.read? text = (layout.parts? text).bind Parts.instant? := by
  rw [Layout.read?, Layout.parts?, Layout.body]
  cases readItems? layout.items {} (if layout.zulu then dropZulu text else text) with
  | none => rfl
  | some result =>
    obtain ⟨parts, rest⟩ := result
    cases rest <;> rfl

/-- One letter Z is dropped from the end of a text. -/
theorem dropZulu_append {z : Char} (hz : z = 'Z' ∨ z = 'z') : dropZulu (text ++ [z]) = text := by
  rcases hz with rfl | rfl <;> simp [dropZulu]

/-- A text that ends otherwise is left as it is. -/
theorem dropZulu_of_getLast? (htext : ∀ c ∈ text.getLast?, c ≠ 'Z' ∧ c ≠ 'z') :
    dropZulu text = text := by
  rw [List.getLast?_eq_head?_reverse] at htext
  unfold dropZulu
  split
  · next heq => exact absurd rfl (htext 'Z' (by simp [heq])).1
  · next heq => exact absurd rfl (htext 'z' (by simp [heq])).2
  · rfl

end Layouts

end RunningBalance.Timestamp
