import RunningBalance.Proofs.Text.Hex
import RunningBalance.Text.Quoted

/-!
# Quoted text is told from what follows

What is written for a character between quotes can be read again, whatever follows it
(`decodeChar?_encodeChar`), and it never starts with a quote. So the quote that ends a text is the
first that is read where a character should stand, and a quoted text gives back the text and what
follows it (`quoted_append_inj`), also where the text itself looks like escapes or holds quotes.

Every character of a quoted text is a visible one of ASCII or one that is shown as itself
(`isShown_of_mem_quoted`). Control characters and the separators of lines and paragraphs are
neither, so a quoted text stays on its line (`isInline_quoted`).
-/

set_option autoImplicit false
set_option relaxedAutoImplicit false

namespace RunningBalance.Text

/-! ### Hexadecimal numerals of any width -/

/-- The digits before the last are those of a sixteenth of the number. -/
theorem toDigits_sixteen_induction {P : ℕ → List Char → Prop}
    (hdigit : ∀ n < 16, P n [Nat.digitChar n])
    (hconcat : ∀ n digits, P (n / 16) digits → P n (digits ++ [Nat.digitChar (n % 16)])) (n : ℕ) :
    P n (Nat.toDigits 16 n) := by
  induction n using Nat.strongRecOn with
  | ind n ih =>
    rcases Nat.lt_or_ge n 16 with hlt | hge
    · rw [Nat.toDigits_of_lt_base hlt]
      exact hdigit n hlt
    · rw [Nat.toDigits_of_base_le (by decide) hge]
      exact hconcat n _ (ih (n / 16) (by omega))

theorem hexNumber?_toDigits (n : ℕ) : hexNumber? 0 (Nat.toDigits 16 n) = some n := by
  refine toDigits_sixteen_induction (P := fun n digits ↦ hexNumber? 0 digits = some n) ?_ ?_ n
  · intro n hlt
    rw [← List.nil_append [_], hexNumber?_concat rfl (hexDigit?_digitChar hlt), Nat.mul_zero,
      Nat.zero_add]
  · intro n digits hdigits
    rw [hexNumber?_concat hdigits (hexDigit?_digitChar (Nat.mod_lt n (by decide))), Nat.div_add_mod]

theorem mem_hexAlphabet_of_mem_toDigits {n : ℕ} : ∀ c ∈ Nat.toDigits 16 n, c ∈ hexAlphabet := by
  have halphabet : ∀ digit < 16, Nat.digitChar digit ∈ hexAlphabet := by decide
  refine toDigits_sixteen_induction (P := fun _ digits ↦ ∀ c ∈ digits, c ∈ hexAlphabet) ?_ ?_ n
  · exact fun n hlt ↦ List.forall_mem_singleton.2 (halphabet n hlt)
  · exact fun n digits hdigits ↦ List.forall_mem_append.2
      ⟨hdigits, List.forall_mem_singleton.2 (halphabet _ (Nat.mod_lt n (by decide)))⟩

namespace Quoted

/-! ### Reading between the quotes -/

/-- The characters that have an escape of one letter, with that letter first. -/
def letters : List (Char × Char) :=
  [('"', '"'), ('\\', '\\'), ('n', '\n'), ('r', '\r'), ('t', '\t'), ('0', Char.ofNat 0)]

/-- The first character that is written between quotes, and what is written after it. -/
def decodeChar? : List Char → Option (Char × List Char)
  | [] => none
  | '"' :: _ => none
  | '\\' :: 'u' :: '\x7b' :: rest =>
    (hexNumber? 0 (rest.takeWhile (· ≠ '\x7d'))).map fun code ↦
      (Char.ofNat code, (rest.dropWhile (· ≠ '\x7d')).tail)
  | '\\' :: letter :: rest => (letters.lookup letter).map (·, rest)
  | c :: rest => some (c, rest)

/-- What is written for a character is read back, whatever follows. -/
theorem decodeChar?_encodeChar (c : Char) (rest : List Char) :
    decodeChar? (encodeChar c ++ rest) = some (c, rest) := by
  unfold encodeChar
  split_ifs with hquote hbackslash hnewline hreturn htab hzero hunshown
  · rw [hquote]
    rfl
  · rw [hbackslash]
    rfl
  · rw [hnewline]
    rfl
  · rw [hreturn]
    rfl
  · rw [htab]
    rfl
  · rw [← Char.ofNat_toNat c, hzero]
    rfl
  · have hdigits : ∀ d ∈ Nat.toDigits 16 c.toNat, decide (d ≠ '\x7d') = true := by
      have halphabet : hexAlphabet.Forall fun d ↦ decide (d ≠ '\x7d') = true := by decide
      exact fun d hd ↦
        List.forall_iff_forall_mem.1 halphabet d (mem_hexAlphabet_of_mem_toDigits d hd)
    have hend : StartsOff (fun d ↦ decide (d ≠ '\x7d')) ('\x7d' :: rest) :=
      startsOff_cons.2 (by decide)
    simp only [List.cons_append, List.nil_append, List.append_assoc, decodeChar?,
      takeWhile_append_of_forall hdigits hend, dropWhile_append_of_forall hdigits hend,
      hexNumber?_toDigits, Option.map_some, Char.ofNat_toNat, List.tail_cons]
  · rw [List.singleton_append]
    unfold decodeChar?
    split <;> simp_all

/-- The text between quotes gives back the text and what follows the quote that ends it. -/
theorem flatMap_encodeChar_append_inj {text other rest rest' : List Char} :
    text.flatMap encodeChar ++ '"' :: rest = other.flatMap encodeChar ++ '"' :: rest' ↔
      text = other ∧ rest = rest' := by
  refine ⟨fun h ↦ ?_, fun ⟨htext, hrest⟩ ↦ htext ▸ hrest ▸ rfl⟩
  induction text generalizing other with
  | nil =>
    cases other with
    | nil => exact ⟨rfl, (List.cons.inj h).2⟩
    | cons d other =>
      rw [List.flatMap_cons, List.append_assoc] at h
      have hread := decodeChar?_encodeChar d (other.flatMap encodeChar ++ '"' :: rest')
      rw [← h] at hread
      cases hread
  | cons c text ih =>
    rw [List.flatMap_cons, List.append_assoc] at h
    have hread := decodeChar?_encodeChar c (text.flatMap encodeChar ++ '"' :: rest)
    rw [h] at hread
    cases other with
    | nil => cases hread
    | cons d other =>
      rw [List.flatMap_cons, List.append_assoc, decodeChar?_encodeChar, Option.some.injEq,
        Prod.mk.injEq] at hread
      obtain ⟨rfl, hlater⟩ := hread
      obtain ⟨rfl, rfl⟩ := ih hlater.symm
      exact ⟨rfl, rfl⟩

end Quoted

/-- A quoted text gives back the text and what follows it. -/
theorem quoted_append_inj {text other rest rest' : String} :
    quoted text ++ rest = quoted other ++ rest' ↔ text = other ∧ rest = rest' := by
  rw [← String.toList_inj, ← String.toList_inj, ← String.toList_inj, String.toList_append,
    String.toList_append, quoted, quoted, String.toList_ofList, String.toList_ofList, Quoted.encode,
    Quoted.encode, List.cons_append, List.cons_append, List.cons_append, List.cons_append,
    List.cons.injEq, List.append_assoc, List.append_assoc, List.singleton_append,
    List.singleton_append, Quoted.flatMap_encodeChar_append_inj]
  exact and_iff_right rfl

/-! ### What stands in a quoted text -/

/-- A control character of Unicode; the ends of lines in ASCII are among them. -/
def IsControl (c : Char) : Prop :=
  c.toNat < 0x20 ∨ 0x7F ≤ c.toNat ∧ c.toNat < 0xA0

/-- A text that stays on its line: it holds no control character and no separator of lines or
paragraphs. -/
def IsInline (text : String) : Prop :=
  ∀ c ∈ text.toList, ¬IsControl c ∧ c ≠ '\u2028' ∧ c ≠ '\u2029'

/-- The space or a visible character of ASCII. -/
def IsVisible (c : Char) : Prop :=
  0x20 ≤ c.toNat ∧ c.toNat < 0x7F

instance : DecidablePred IsVisible := fun c ↦
  inferInstanceAs (Decidable (0x20 ≤ c.toNat ∧ c.toNat < 0x7F))

/-- A visible character of ASCII, or one that is shown as itself. -/
def IsShown (c : Char) : Prop :=
  IsVisible c ∨ isUnshown c = false

theorem IsVisible.inline {c : Char} (h : IsVisible c) :
    ¬IsControl c ∧ c ≠ '\u2028' ∧ c ≠ '\u2029' := by
  refine ⟨?_, ?_, ?_⟩
  · unfold IsControl
    unfold IsVisible at h
    omega
  · rintro rfl
    exact absurd h (by decide)
  · rintro rfl
    exact absurd h (by decide)

theorem IsShown.inline {c : Char} (h : IsShown c) :
    ¬IsControl c ∧ c ≠ '\u2028' ∧ c ≠ '\u2029' := by
  have hruns : (0x0, 0x1F) ∈ unshownRuns ∧ (0x7F, 0xA0) ∈ unshownRuns ∧
      isUnshown '\u2028' = true ∧ isUnshown '\u2029' = true := by
    decide +kernel
  obtain ⟨hlow, hhigh, hline, hparagraph⟩ := hruns
  rcases h with hvisible | hshown
  · exact hvisible.inline
  · rw [← Bool.not_eq_true] at hshown
    refine ⟨?_, ?_, ?_⟩
    · rintro (hc | hc)
      · exact hshown (inRuns_of_mem hlow (Nat.zero_le _) (by omega))
      · exact hshown (inRuns_of_mem hhigh hc.1 (by omega))
    · rintro rfl
      exact hshown hline
    · rintro rfl
      exact hshown hparagraph

theorem isVisible_of_mem_hexAlphabet {c : Char} (h : c ∈ hexAlphabet) : IsVisible c := by
  have halphabet : hexAlphabet.Forall IsVisible := by decide
  exact List.forall_iff_forall_mem.1 halphabet c h

/-- What is written for a character between quotes is shown. -/
theorem isShown_of_mem_encodeChar {c d : Char} (h : d ∈ Quoted.encodeChar c) : IsShown d := by
  have hescape {escape : List Char} (hvisible : escape.Forall IsVisible) (hd : d ∈ escape) :
      IsShown d :=
    .inl (List.forall_iff_forall_mem.1 hvisible d hd)
  unfold Quoted.encodeChar at h
  split_ifs at h with hquote hbackslash hnewline hreturn htab hzero hunshown
  · exact hescape (by decide) h
  · exact hescape (by decide) h
  · exact hescape (by decide) h
  · exact hescape (by decide) h
  · exact hescape (by decide) h
  · exact hescape (by decide) h
  · rcases List.mem_append.1 h with hstart | hend
    · rcases List.mem_append.1 hstart with hmark | hdigit
      · exact hescape (by decide) hmark
      · exact .inl (isVisible_of_mem_hexAlphabet (mem_hexAlphabet_of_mem_toDigits d hdigit))
    · exact hescape (by decide) hend
  · rw [List.mem_singleton.1 h]
    exact .inr (Bool.not_eq_true _ ▸ hunshown)

theorem isShown_of_mem_quoted {text : String} {c : Char} (h : c ∈ (quoted text).toList) :
    IsShown c := by
  rw [quoted, String.toList_ofList, Quoted.encode, List.mem_append, List.mem_cons,
    List.mem_singleton, List.mem_flatMap] at h
  rcases h with (rfl | ⟨d, -, hc⟩) | rfl
  · exact .inl (by decide)
  · exact isShown_of_mem_encodeChar hc
  · exact .inl (by decide)

/-! ### Texts that stay on their line -/

theorem isInline_append {text more : String} :
    IsInline (text ++ more) ↔ IsInline text ∧ IsInline more := by
  simp only [IsInline, String.toList_append, List.forall_mem_append]

theorem isInline_of_isVisible {text : String} (h : ∀ c ∈ text.toList, IsVisible c) :
    IsInline text :=
  fun c hc ↦ (h c hc).inline

/-- A quoted text stays on its line, whatever the text is. -/
theorem isInline_quoted (text : String) : IsInline (quoted text) :=
  fun _ hc ↦ (isShown_of_mem_quoted hc).inline

end RunningBalance.Text
