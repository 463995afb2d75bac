import Mathlib.Data.List.TakeWhile
import RunningBalance.Text.Blank

/-!
# Runs of characters at the ends of a text

Readers take the characters of a class from the start of a text and leave the rest. What they take
does not change when more text follows, as long as it starts with no character of the class
(`takeWhile_append_of_startsOff`, `dropWhile_append_of_startsOff`). So a text without blanks in
front has nothing to trim when it goes on to something without blanks at its ends (`trim_append`).

What is trimmed are the blanks around: they are what a text has besides its trimmed part
(`exists_append_trim_append`), and a text without blanks comes back from any blanks around it
(`trim_append_append`).
-/

set_option autoImplicit false
set_option relaxedAutoImplicit false

namespace RunningBalance.Text

/-- The text does not start with a character that satisfies `p`. -/
def StartsOff (p : Char → Bool) (text : List Char) : Prop :=
  ∀ c ∈ text.head?, p c = false

variable {p : Char → Bool} {text suffix : List Char}

theorem startsOff_nil : StartsOff p [] := by
  intro c hc
  cases hc

theorem startsOff_cons {c : Char} : StartsOff p (c :: text) ↔ p c = false := by
  simp [StartsOff]

theorem StartsOff.takeWhile (h : StartsOff p text) : text.takeWhile p = [] := by
  cases text with
  | nil => rfl
  | cons c text => simp [startsOff_cons.1 h]

theorem StartsOff.dropWhile (h : StartsOff p text) : text.dropWhile p = text := by
  cases text with
  | nil => rfl
  | cons c text => simp [startsOff_cons.1 h]

/-- What is left after a run starts off the class of the run. -/
theorem startsOff_dropWhile : StartsOff p (text.dropWhile p) := by
  intro c hc
  have hhead := List.head?_dropWhile_not p text
  rw [Option.mem_def.1 hc] at hhead
  exact hhead

theorem takeWhile_append_of_startsOff (h : StartsOff p suffix) :
    (text ++ suffix).takeWhile p = text.takeWhile p := by
  induction text with
  | nil => exact h.takeWhile
  | cons c text ih =>
    rw [List.cons_append, List.takeWhile_cons, List.takeWhile_cons, ih]

theorem dropWhile_append_of_startsOff (h : StartsOff p suffix) :
    (text ++ suffix).dropWhile p = text.dropWhile p ++ suffix := by
  induction text with
  | nil => exact h.dropWhile
  | cons c text ih =>
    rw [List.cons_append, List.dropWhile_cons, List.dropWhile_cons, ih]
    split <;> rfl

/-- A run that fills a text is all that is taken where the text goes on with something else. -/
theorem takeWhile_append_of_forall (hall : ∀ c ∈ text, p c = true) (h : StartsOff p suffix) :
    (text ++ suffix).takeWhile p = text := by
  rw [takeWhile_append_of_startsOff h, List.takeWhile_eq_self_iff.2 hall]

theorem dropWhile_append_of_forall (hall : ∀ c ∈ text, p c = true) (h : StartsOff p suffix) :
    (text ++ suffix).dropWhile p = suffix := by
  rw [dropWhile_append_of_startsOff h, List.dropWhile_eq_nil_iff.2 hall, List.nil_append]

/-- A text that a run does not exhaust leaves more text where more follows. -/
theorem dropWhile_append_of_ne_nil (h : text.dropWhile p ≠ []) :
    (text ++ suffix).dropWhile p = text.dropWhile p ++ suffix := by
  rw [List.dropWhile_append, if_neg (by simpa using h)]

theorem after?_eq_some_iff {beginning rest : List Char} :
    after? beginning text = some rest ↔ text = beginning ++ rest := by
  induction beginning generalizing text with
  | nil => simp [after?]
  | cons c beginning ih =>
    cases text with
    | nil => simp [after?]
    | cons d text =>
      rw [after?, List.cons_append, List.cons.injEq]
      split
      · next heq => rw [ih, eq_comm (a := d), and_iff_right heq]
      · next hne => simp [Ne.symm hne]

/-- A beginning is found again where more text follows. -/
theorem after?_append {beginning rest : List Char} (h : after? beginning text = some rest) :
    after? beginning (text ++ suffix) = some (rest ++ suffix) := by
  rw [after?_eq_some_iff] at h ⊢
  rw [h, List.append_assoc]

/-! ### Runs at the end of a text -/

/-- A text is what is left of it and what is dropped at its end. -/
theorem exists_append_dropTrailing (p : Char → Bool) (text : List Char) :
    ∃ dropped, text = dropTrailing p text ++ dropped ∧ ∀ c ∈ dropped, p c = true := by
  refine ⟨(text.reverse.takeWhile p).reverse, ?_, fun c hc ↦ ?_⟩
  · rw [dropTrailing, ← List.reverse_append, List.takeWhile_append_dropWhile, List.reverse_reverse]
  · exact List.mem_takeWhile_imp (List.mem_reverse.1 hc)

/-- Of the repetitions of a character at the end of a text none is left. -/
theorem exists_append_replicate (c : Char) (text : List Char) :
    ∃ n, text = dropTrailing (· = c) text ++ List.replicate n c ∧
      (dropTrailing (· = c) text).getLast? ≠ some c := by
  obtain ⟨dropped, happend, hdropped⟩ := exists_append_dropTrailing (· = c) text
  have hrepeated : dropped = List.replicate dropped.length c :=
    List.eq_replicate_iff.2 ⟨rfl, fun d hd ↦ of_decide_eq_true (hdropped d hd)⟩
  rw [hrepeated] at happend
  refine ⟨_, happend, fun hlast ↦ ?_⟩
  rw [dropTrailing, List.getLast?_reverse] at hlast
  simpa using startsOff_dropWhile c hlast

/-- A run that follows a text is dropped, however long it is. -/
theorem dropTrailing_append_of_forall {dropped : List Char} (h : ∀ c ∈ dropped, p c = true) :
    dropTrailing p (text ++ dropped) = dropTrailing p text := by
  rw [dropTrailing, List.reverse_append, List.dropWhile_append_of_pos, dropTrailing]
  exact fun c hc ↦ h c (List.mem_reverse.1 hc)

theorem mem_of_mem_dropTrailing {c : Char} (hc : c ∈ dropTrailing p text) : c ∈ text :=
  List.mem_reverse.1 ((List.dropWhile_sublist p).mem (List.mem_reverse.1 hc))

/-! ### Blanks at the ends of a text -/

/-- The visible characters of ASCII are not blank. -/
theorem isBlank_eq_false_of_visible {c : Char} (h : 0x21 ≤ c.toNat) (h' : c.toNat ≤ 0x7E) :
    isBlank c = false := by
  by_contra hblank
  simp only [isBlank, inRuns, blankRuns, List.any_cons, List.any_nil, Bool.not_eq_false,
    Bool.or_eq_true, Bool.and_eq_true, decide_eq_true_eq, Bool.false_eq_true, or_false] at hblank
  omega

/-- A text without blanks at its ends has nothing to trim. -/
theorem trim_of_startsOff (hstart : StartsOff isBlank text)
    (hend : StartsOff isBlank text.reverse) : trim text = text := by
  rw [trim, trimStart, hstart.dropWhile, dropTrailing, hend.dropWhile, List.reverse_reverse]

theorem trim_of_forall (h : ∀ c ∈ text, isBlank c = false) : trim text = text :=
  trim_of_startsOff (fun c hc ↦ h c (List.mem_of_mem_head? hc)) fun c hc ↦
    h c (List.mem_reverse.1 (List.mem_of_mem_head? hc))

/-- A text is what is left of it and the blanks around. -/
theorem exists_append_trim_append (text : List Char) :
    ∃ before after, text = before ++ trim text ++ after ∧ (∀ c ∈ before, isBlank c = true) ∧
      ∀ c ∈ after, isBlank c = true := by
  obtain ⟨after, happend, hafter⟩ := exists_append_dropTrailing isBlank (trimStart text)
  refine ⟨text.takeWhile isBlank, after, ?_, fun c hc ↦ List.mem_takeWhile_imp hc, hafter⟩
  rw [List.append_assoc, trim, ← happend, trimStart, List.takeWhile_append_dropWhile]

/-- Blanks in front of a text are trimmed. -/
theorem trim_append_left {before : List Char} (h : ∀ c ∈ before, isBlank c = true) :
    trim (before ++ text) = trim text := by
  rw [trim, trimStart, List.dropWhile_append_of_pos h, trim, trimStart]

/-- Blanks behind a text are trimmed. -/
theorem trim_append_right {after : List Char} (h : ∀ c ∈ after, isBlank c = true) :
    trim (text ++ after) = trim text := by
  rw [trim, trim, trimStart, trimStart, List.dropWhile_append]
  split
  · next hnil =>
    rw [List.isEmpty_iff.1 hnil, List.dropWhile_eq_nil_iff.2 h]
  · exact dropTrailing_append_of_forall h

theorem trim_of_forall_blank (h : ∀ c ∈ text, isBlank c = true) : trim text = [] := by
  rw [← List.nil_append text, trim_append_right h]
  rfl

/-- What has been trimmed has nothing to trim. -/
theorem trim_trim (text : List Char) : trim (trim text) = trim text := by
  obtain ⟨before, after, htext, hbefore, hafter⟩ := exists_append_trim_append text
  have htrim := congrArg trim htext
  rw [trim_append_right hafter, trim_append_left hbefore] at htrim
  exact htrim.symm

/-- Blanks around a text without blanks are trimmed. -/
theorem trim_append_append {before after : List Char} (hbefore : ∀ c ∈ before, isBlank c = true)
    (htext : ∀ c ∈ text, isBlank c = false) (hafter : ∀ c ∈ after, isBlank c = true) :
    trim (before ++ text ++ after) = text := by
  rw [trim_append_right hafter, trim_append_left hbefore, trim_of_forall htext]

theorem trimStart_of_trim (h : trim text = text) : trimStart text = text := by
  have hlength : text.length ≤ (trimStart text).length := by
    calc text.length = (trim text).length := by rw [h]
      _ ≤ (trimStart text).reverse.length := by
        rw [trim, dropTrailing, List.length_reverse]
        exact (List.dropWhile_sublist _).length_le
      _ = (trimStart text).length := List.length_reverse
  exact (List.dropWhile_suffix isBlank).eq_of_length_le hlength

/-- A text without blanks in front has nothing to trim when something without blanks at its ends
stands behind it. -/
theorem trim_append (htext : trimStart text = text) (hne : suffix ≠ [])
    (hstart : StartsOff isBlank suffix) (hend : StartsOff isBlank suffix.reverse) :
    trim (text ++ suffix) = text ++ suffix := by
  have hreverse : StartsOff isBlank (text ++ suffix).reverse := by
    obtain ⟨c, rest, hc⟩ := List.exists_cons_of_ne_nil (List.reverse_ne_nil_iff.2 hne)
    rw [hc] at hend
    rw [List.reverse_append, hc]
    exact startsOff_cons.2 (startsOff_cons.1 hend)
  rw [trim, trimStart, dropWhile_append_of_startsOff hstart]
  rw [trimStart] at htext
  rw [htext, dropTrailing, hreverse.dropWhile, List.reverse_reverse]

end RunningBalance.Text
