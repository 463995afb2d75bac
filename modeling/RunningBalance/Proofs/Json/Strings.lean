import RunningBalance.Proofs.Json.Reading
import RunningBalance.Proofs.Json.Record

/-!
# Spellings of strings

In a JSON text a character of a string stands for itself or is escaped: by a letter, by four
hexadecimal digits, or by two such escapes, which are the halves of a surrogate pair (`SpellsChar`).
However it is spelled, the string is scanned as one token with its text (`scanOne?_of_spells`), and
an array of strings is read as such, with any blanks between its tokens
(`ofText_of_spellsArray`).
-/

set_option autoImplicit false
set_option relaxedAutoImplicit false

namespace RunningBalance.Json

open Text (IsHexDigit hexValue)

/-! ### Spellings -/

/-- The letters that stand for a character after a backslash. -/
def shortEscapes : List (Char × Char) :=
  [('"', '"'), ('\\', '\\'), ('/', '/'), ('b', '\x08'), ('f', '\x0c'), ('n', '\n'), ('r', '\r'),
    ('t', '\t')]

/-- Four hexadecimal digits are the code unit of a number. -/
structure SpellsUnit (digits : List Char) (unit : ℕ) : Prop where
  length_eq : digits.length = 4
  isHexDigit : ∀ c ∈ digits, IsHexDigit c
  value_eq : hexValue digits = unit

/-- The spellings of a character inside a string. -/
inductive SpellsChar : List Char → Char → Prop
  | plain {c : Char} (hquote : c ≠ '"') (hbackslash : c ≠ '\\') (hcontrol : 0x20 ≤ c.toNat) :
    SpellsChar [c] c
  | short {letter c : Char} (h : (letter, c) ∈ shortEscapes) : SpellsChar ['\\', letter] c
  | unit {digits : List Char} {c : Char} (h : SpellsUnit digits c.toNat) :
    SpellsChar ('\\' :: 'u' :: digits) c
  | pair {high low : List Char} {c : Char} {m n : ℕ} (hhigh : SpellsUnit high (0xD800 + m))
      (hlow : SpellsUnit low (0xDC00 + n)) (hm : m < 0x400) (hn : n < 0x400)
      (hc : c.toNat = 0x10000 + 0x400 * m + n) :
    SpellsChar (('\\' :: 'u' :: high) ++ ('\\' :: 'u' :: low)) c

/-- The spellings of characters one after the other. -/
inductive SpellsChars : List Char → List Char → Prop
  | nil : SpellsChars [] []
  | cons {piece body text : List Char} {c : Char} (hpiece : SpellsChar piece c)
      (hbody : SpellsChars body text) : SpellsChars (piece ++ body) (c :: text)

/-- Characters that need no escape spell themselves. -/
theorem SpellsChars.of_forall {text : List Char}
    (h : ∀ c ∈ text, c ≠ '"' ∧ c ≠ '\\' ∧ 0x20 ≤ c.toNat) : SpellsChars text text := by
  induction text with
  | nil => exact .nil
  | cons c text ih =>
    obtain ⟨⟨hquote, hbackslash, hcontrol⟩, hlater⟩ := List.forall_mem_cons.1 h
    exact .cons (.plain hquote hbackslash hcontrol) (ih hlater)

/-- The spellings of a string, with its quotes. -/
def SpellsString (literal : List Char) (text : String) : Prop :=
  ∃ body, literal = '"' :: body ++ ['"'] ∧ SpellsChars body text.toList

/-- The spellings of one string or more with commas between them and blanks around each. -/
inductive SpellsItems : List Char → List String → Prop
  | last {before literal after : List Char} {text : String}
      (hbefore : ∀ c ∈ before, Token.isBlank c) (hliteral : SpellsString literal text)
      (hafter : ∀ c ∈ after, Token.isBlank c) : SpellsItems (before ++ (literal ++ after)) [text]
  | more {before literal after later : List Char} {text : String} {texts : List String}
      (hbefore : ∀ c ∈ before, Token.isBlank c) (hliteral : SpellsString literal text)
      (hafter : ∀ c ∈ after, Token.isBlank c) (hlater : SpellsItems later texts) :
    SpellsItems (before ++ (literal ++ (after ++ ',' :: later))) (text :: texts)

/-- The spellings of an array of strings. -/
inductive SpellsArray : List Char → List String → Prop
  | empty {blanks : List Char} (h : ∀ c ∈ blanks, Token.isBlank c) :
    SpellsArray ('[' :: blanks ++ [']']) []
  | items {items : List Char} {texts : List String} (h : SpellsItems items texts) :
    SpellsArray ('[' :: items ++ [']']) texts

/-! ### Strings are one token -/

namespace Token

variable {rest : List Char}

/-- The halves of a surrogate pair add their character to the text. -/
theorem joinUnits?_pair {m n : ℕ} (hm : m < 0x400) (hn : n < 0x400) {c : Char}
    (hc : c.toNat = 0x10000 + 0x400 * m + n) (later : List ℕ) :
    joinUnits? ((0xD800 + m) :: (0xDC00 + n) :: later) = (joinUnits? later).map (c :: ·) := by
  have hhigh : isHighSurrogate (0xD800 + m) = true := by
    simp only [isHighSurrogate, Bool.and_eq_true, decide_eq_true_eq]
    omega
  have hlow : isLowSurrogate (0xDC00 + n) = true := by
    simp only [isLowSurrogate, Bool.and_eq_true, decide_eq_true_eq]
    omega
  have hchar :
      Char.ofNat (0x10000 + 0x400 * (0xD800 + m - 0xD800) + (0xDC00 + n - 0xDC00)) = c := by
    rw [Nat.add_sub_cancel_left, Nat.add_sub_cancel_left, ← hc, Char.ofNat_toNat]
  rw [joinUnits?, if_pos hhigh, if_pos hlow, hchar]

/-- An escape with four digits is scanned as its unit. -/
theorem scanUnits_escape {digits : List Char} {unit : ℕ} (h : SpellsUnit digits unit) :
    scanUnits .plain ('\\' :: 'u' :: digits ++ rest) =
      (scanUnits .plain rest).map fun (units, rest) ↦ (unit :: units, rest) := by
  have hnumber : Text.hexNumber? 0 digits = some unit := by
    refine Text.hexNumber?_eq_some_iff.2 ⟨h.isHexDigit, ?_⟩
    rw [h.value_eq, Nat.mul_zero, Nat.zero_add]
  exact scanUnits_inHex h.length_eq hnumber

/-- However a character is spelled, it is scanned as units that are joined to it. -/
theorem exists_units_of_spellsChar {piece : List Char} {c : Char} (h : SpellsChar piece c) :
    ∃ units : List ℕ,
      (∀ rest, scanUnits .plain (piece ++ rest) =
        (scanUnits .plain rest).map fun (later, rest) ↦ (units ++ later, rest)) ∧
      ∀ later, joinUnits? (units ++ later) = (joinUnits? later).map (c :: ·) := by
  cases h with
  | plain hquote hbackslash hcontrol =>
    refine ⟨[c.toNat], fun rest ↦ ?_, joinUnits?_cons c⟩
    rw [List.singleton_append, scanUnits, if_neg hquote, if_neg hbackslash,
      if_neg (Nat.not_lt.2 hcontrol)]
    rfl
  | @short letter _ h =>
    refine ⟨[c.toNat], fun rest ↦ ?_, joinUnits?_cons c⟩
    have hescapes : shortEscapes.Forall fun escape ↦
        escape.1 ≠ 'u' ∧ escaped? escape.1 = some escape.2.toNat := by
      decide
    obtain ⟨hletter, hescaped⟩ := List.forall_iff_forall_mem.1 hescapes _ h
    rw [List.cons_append, List.singleton_append, scanUnits, if_neg (by decide), if_pos rfl,
      scanUnits, if_neg hletter, hescaped]
    rfl
  | unit h => exact ⟨[c.toNat], fun rest ↦ scanUnits_escape h, joinUnits?_cons c⟩
  | @pair high low _ m n hhigh hlow hm hn hc =>
    refine ⟨[0xD800 + m, 0xDC00 + n], fun rest ↦ ?_, joinUnits?_pair hm hn hc⟩
    rw [List.append_assoc, scanUnits_escape hhigh, scanUnits_escape hlow, Option.map_map]
    rfl

/-- Spelled characters are scanned, up to the closing quote, as units that are joined to them. -/
theorem exists_units_of_spellsChars {body text : List Char} (h : SpellsChars body text)
    (rest : List Char) :
    ∃ units, scanUnits .plain (body ++ '"' :: rest) = some (units, rest) ∧
      joinUnits? units = some text := by
  induction h with
  | nil => exact ⟨[], rfl, rfl⟩
  | cons hpiece _ ih =>
    obtain ⟨later, hlater, hjoined⟩ := ih
    obtain ⟨units, hscan, hjoin⟩ := exists_units_of_spellsChar hpiece
    refine ⟨units ++ later, ?_, ?_⟩
    · rw [List.append_assoc, hscan, hlater]
      rfl
    · rw [hjoin, hjoined]
      rfl

/-- A spelled string is scanned as a string with its text. -/
theorem scanOne?_of_spells {literal : List Char} {text : String} (h : SpellsString literal text) :
    scanOne? (literal ++ rest) = some (.string (some text), rest) := by
  obtain ⟨body, rfl, hbody⟩ := h
  obtain ⟨units, hscan, hjoin⟩ := exists_units_of_spellsChars hbody rest
  have hstring : scanOne? ('"' :: body ++ ['"'] ++ rest) = scanString? (body ++ '"' :: rest) := by
    rw [List.append_assoc]
    rfl
  simp only [hstring, scanString?, hscan, hjoin, Option.map_some, String.ofList_toList]

end Token

/-! ### Arrays of strings -/

section Arrays

variable {stack : List Frame} {rest : List Char}

theorem run_nil (state : State) : state.run [] = state := by
  rw [State.run, Token.scan_nil, List.foldl_nil]

theorem run_blanks {state : State} {blanks : List Char} (h : ∀ c ∈ blanks, Token.isBlank c = true) :
    state.run (blanks ++ rest) = state.run rest := by
  rw [State.run, Token.scan_append_of_isBlank h, State.run]

/-- A string between blanks, where a value may come next inside an array. -/
theorem State.Awaits.run_string {state : State} {done : List Draft}
    (hstate : state.Awaits (.items done :: stack)) {before literal after : List Char}
    {text : String} (hbefore : ∀ c ∈ before, Token.isBlank c = true)
    (hliteral : SpellsString literal text) (hafter : ∀ c ∈ after, Token.isBlank c = true) :
    state.run (before ++ (literal ++ (after ++ rest))) =
      (State.afterItem (.string (some text) :: done) stack).run rest := by
  have hstart : Text.StartsOff Token.isBlank (literal ++ (after ++ rest)) := by
    obtain ⟨body, rfl, -⟩ := hliteral
    exact Text.startsOff_cons.2 (by decide)
  rw [run_blanks hbefore, hstate.run_token (.string (some text)) (by simp) hstart
    (Token.scanOne?_of_spells hliteral), run_blanks hafter]
  rfl

/-- Reading spelled strings leads to the end of their array. -/
theorem State.Awaits.run_items {items : List Char} {texts : List String}
    (h : SpellsItems items texts) {state : State} {done : List Draft}
    (hstate : state.Awaits (.items done :: stack)) :
    state.run (items ++ ']' :: rest) =
      (settle (.array (done.reverse ++ texts.map fun text ↦ .string (some text))) stack).run
        rest := by
  induction h generalizing state done with
  | last hbefore hliteral hafter =>
    rw [List.append_assoc, List.append_assoc, hstate.run_string hbefore hliteral hafter,
      Json.run_cons ']' .closeArray (by decide) rfl]
    rw [State.step, List.reverse_cons]
    rfl
  | @more before literal after later text texts hbefore hliteral hafter _ ih =>
    calc state.run (before ++ (literal ++ (after ++ ',' :: later)) ++ ']' :: rest)
        = (State.afterItem (.string (some text) :: done) stack).run
            (',' :: (later ++ ']' :: rest)) := by
          rw [List.append_assoc, List.append_assoc, List.append_assoc,
            hstate.run_string hbefore hliteral hafter, List.cons_append]
      _ = (State.atValue (.items (.string (some text) :: done) :: stack)).run
            (later ++ ']' :: rest) := Json.run_cons ',' .comma (by decide) rfl
      _ = _ := by
          rw [ih (.value _), List.reverse_cons, List.append_assoc]
          rfl

theorem draft_strings (texts : List String) :
    (Json.array (texts.map .string)).draft = .array (texts.map fun text ↦ .string (some text)) := by
  rw [draft, draftItems_eq_map, List.map_map]
  rfl

/-- An array of strings is one whole value, however it is spelled. -/
theorem ofText_of_spellsArray {text : List Char} {texts : List String}
    (h : SpellsArray text texts) :
    Reading.ofText (String.ofList text) =
      { tree := (Json.array (texts.map .string)).draft, complete := true } := by
  have hopen (later : List Char) : (State.atValue []).run ('[' :: later) =
      (State.atFirstItem []).run later :=
    Json.run_cons '[' .openArray (by decide) rfl
  have hrun : (State.atValue []).run text =
      .complete (.array (texts.map fun text ↦ .string (some text))) := by
    cases h with
    | empty hblanks =>
      rw [List.cons_append, hopen, run_blanks hblanks,
        Json.run_cons ']' .closeArray (by decide) rfl, run_nil]
      rfl
    | items hitems =>
      rw [List.cons_append, hopen, State.Awaits.run_items hitems (.firstItem []), run_nil]
      rfl
  rw [State.run] at hrun
  rw [Reading.ofText, String.toList_ofList, Reading.ofTokens, hrun, draft_strings]
  rfl

end Arrays

/-! ### Lists of strings -/

/-- A list of strings is read from an array of just these strings. -/
theorem readList_readString_eq_ok_iff {tree : Draft} {texts : List String} :
    readList readString tree = .ok texts ↔ tree = (Json.array (texts.map .string)).draft := by
  have hstring (item : Draft) (text : String) :
      readString item = .ok text ↔ item = .string (some text) := by
    cases item with
    | string value => cases value <;> simp [readString]
    | _ => simp [readString]
  rw [draft_strings]
  cases tree with
  | array items =>
    rw [readList, Attempts.mapM_eq_ok_iff, Draft.array.injEq, ← List.forall₂_eq_eq_eq,
      List.forall₂_map_right_iff]
    simp only [hstring]
  | _ => simp [readList]

/-- A text is decoded as a list of strings if it is one whole value, the array of these strings. -/
theorem decode_strings_eq_ok_iff {text : String} {texts : List String} :
    decode (readList readString) text = .ok texts ↔
      Reading.ofText text =
        { tree := (Json.array (texts.map .string)).draft, complete := true } := by
  rw [decode]
  obtain ⟨tree, complete⟩ := Reading.ofText text
  rw [Reading.mk.injEq, ← readList_readString_eq_ok_iff]
  cases readList readString tree with
  | error fault => exact iff_of_false (fun h ↦ by cases h) fun h ↦ by cases h.1
  | ok found =>
    cases complete with
    | false => exact iff_of_false (fun h ↦ by cases h) fun h ↦ by cases h.2
    | true => exact (and_iff_left rfl).symm

end RunningBalance.Json
