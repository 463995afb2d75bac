import RunningBalance.Proofs.Account.Canonical
import RunningBalance.Proofs.Json.Strings
import RunningBalance.Proofs.Text.Line
import RunningBalance.Settings.Environment

/-!
# Lists of accounts

The accounts to follow are a JSON array of strings, or else texts between commas (`Lists`). Commas
part a text into lists of their own (`splitAccounts_append`), and blanks around it make no
difference (`splitAccounts_trim`), so that blanks around the texts and empty texts between them do
not count (`splitAccounts_of_spellsList`).

Both forms spell the same accounts (`account_lists_agree`): a text that names an account has neither
a comma nor a bracket in it.
-/

set_option autoImplicit false
set_option relaxedAutoImplicit false

namespace RunningBalance

open Text (trim)

/-- A text that names an account holds nothing but blanks, hexadecimal digits and the letter of its
mark. -/
theorem Account.mem_of_read? {text : String} {account : Account} (h : read? text = some account)
    {c : Char} (hc : c ∈ text.toList) :
    Text.isBlank c = true ∨ Text.IsHexDigit c ∨ c ∈ ['x', 'X'] := by
  obtain ⟨digits, hspells, -⟩ := read?_eq_some_iff.1 h
  obtain ⟨before, after, mark, hmark, htext, hbefore, hafter⟩ := hspells.layout
  have hmarks : marks.Forall fun mark ↦ mark.Forall fun c ↦ c.toLower ∈ Text.hexAlphabet ∨
      c ∈ ['x', 'X'] := by
    decide
  rw [htext] at hc
  simp only [List.mem_append] at hc
  rcases hc with (hc | hc | hc) | hc
  · exact .inl (hbefore c hc)
  · exact .inr (List.forall_iff_forall_mem.1 (List.forall_iff_forall_mem.1 hmarks _ hmark) _ hc)
  · exact .inr (.inl (hspells.isHexDigit c hc))
  · exact .inl (hafter c hc)

theorem Account.not_mem_of_read? {text : String} {account : Account} (h : read? text = some account)
    {c : Char} (hc : c = ',' ∨ c = '[') : c ∉ text.toList := by
  intro hmem
  have hmem := mem_of_read? h hmem
  revert hmem
  unfold Text.IsHexDigit
  rcases hc with rfl | rfl
  all_goals decide

theorem Account.trim_ne_nil_of_read? {text : String} {account : Account}
    (h : read? text = some account) : trim text.toList ≠ [] := by
  intro hnil
  rw [read?, hnil] at h
  cases h

theorem Account.ofText_eq_ok_iff {text : String} {account : Account} :
    ofText text = .ok account ↔ read? text = some account := by
  rw [ofText]
  cases read? text <;> simp

theorem Account.ofText_eq_error_iff {text : String} {fault : Ledger.Fault} :
    ofText text = .error fault ↔ read? text = none ∧ fault = .invalidAccount text := by
  rw [ofText]
  cases read? text <;> simp [eq_comm]

namespace Settings

/-! ### Texts between commas -/

section Commas

variable {text before after later : List Char}

theorem splitAccounts_append (text later : List Char) :
    splitAccounts (text ++ ',' :: later) = splitAccounts text ++ splitAccounts later := by
  rw [splitAccounts, Text.split_append_cons, List.map_append, List.filter_append, List.map_append]
  rfl

/-- A text without commas is a list of one, or of none if it is blank. -/
theorem splitAccounts_of_not_mem (h : ',' ∉ text) :
    splitAccounts text = if trim text = [] then [] else [String.ofList (trim text)] := by
  rw [splitAccounts, Text.split_of_not_mem h]
  by_cases hblank : trim text = [] <;> simp [hblank]

theorem not_mem_of_forall_blank (h : ∀ c ∈ text, Text.isBlank c = true) : ',' ∉ text := fun hc ↦
  absurd (h ',' hc) (by decide)

/-- Blanks in front of a list make no difference. -/
theorem splitAccounts_append_left (h : ∀ c ∈ before, Text.isBlank c = true) (text : List Char) :
    splitAccounts (before ++ text) = splitAccounts text := by
  have hbefore := not_mem_of_forall_blank h
  by_cases hcomma : ',' ∈ text
  · obtain ⟨first, later, rfl, hfirst⟩ := List.eq_append_cons_of_mem hcomma
    rw [← List.append_assoc, splitAccounts_append, splitAccounts_append,
      splitAccounts_of_not_mem (List.not_mem_append hbefore hfirst),
      splitAccounts_of_not_mem hfirst, Text.trim_append_left h]
  · rw [splitAccounts_of_not_mem (List.not_mem_append hbefore hcomma),
      splitAccounts_of_not_mem hcomma, Text.trim_append_left h]

/-- Blanks behind a list make no difference, since they belong to what stands behind its last
comma. -/
theorem splitAccounts_append_right (h : ∀ c ∈ after, Text.isBlank c = true) (text : List Char) :
    splitAccounts (text ++ after) = splitAccounts text := by
  by_cases hcomma : ',' ∈ text
  · obtain ⟨first, later, rfl, -⟩ := List.eq_append_cons_of_mem hcomma
    rw [List.append_assoc, List.cons_append, splitAccounts_append, splitAccounts_append,
      splitAccounts_append_right h later]
  · rw [splitAccounts_of_not_mem (List.not_mem_append hcomma (not_mem_of_forall_blank h)),
      splitAccounts_of_not_mem hcomma, Text.trim_append_right h]
termination_by text.length

theorem splitAccounts_trim (text : List Char) : splitAccounts (trim text) = splitAccounts text := by
  obtain ⟨before, after, htext, hbefore, hafter⟩ := Text.exists_append_trim_append text
  have hsplit := congrArg splitAccounts htext
  rw [splitAccounts_append_right hafter, splitAccounts_append_left hbefore] at hsplit
  exact hsplit.symm

end Commas

/-! ### What a text lists -/

/-- The lists of texts with commas between them: blanks, a text with blanks around it, and two lists
with a comma between them. -/
inductive SpellsList : List Char → List String → Prop
  | blank {blanks : List Char} (h : ∀ c ∈ blanks, Text.isBlank c = true) : SpellsList blanks []
  | item {before after : List Char} {text : String} (hbefore : ∀ c ∈ before, Text.isBlank c = true)
      (hafter : ∀ c ∈ after, Text.isBlank c = true) :
    SpellsList (before ++ text.toList ++ after) [text]
  | comma {list later : List Char} {texts laterTexts : List String} (hlist : SpellsList list texts)
      (hlater : SpellsList later laterTexts) :
    SpellsList (list ++ ',' :: later) (texts ++ laterTexts)

/-- A text without the blanks at its ends. -/
def trimmed (text : String) : String :=
  String.ofList (trim text.toList)

/-- The texts that a text lists: the strings of the JSON array that it is, if it starts with a
bracket, and otherwise the pieces between its commas that are not blank. -/
inductive Lists (text : String) : List String → Prop
  | array {texts : List String} (hstart : (trim text.toList).head? = some '[')
      (htext : Json.Reading.ofText (trimmed text) =
        { tree := (Json.array (texts.map .string)).draft, complete := true }) : Lists text texts
  | commas (hstart : (trim text.toList).head? ≠ some '[') : Lists text
      (((text.toList.splitOn ',').map trim).filter (· ≠ []) |>.map String.ofList)

section Lists

variable {text : String} {texts : List String}

/-- Reading a list finds the texts that it lists. -/
theorem readAccounts_eq_ok_iff : readAccounts text = .ok texts ↔ Lists text texts := by
  rw [readAccounts]
  split
  · next rest hstart =>
    rw [Attempts.mapError_eq_ok_iff, Json.decode_strings_eq_ok_iff, ← hstart]
    constructor
    · exact .array (by rw [hstart, List.head?_cons])
    · rintro (⟨-, htext⟩ | ⟨hother⟩)
      · exact htext
      · exact absurd (by rw [hstart, List.head?_cons]) hother
  · next hstart =>
    have hother : (trim text.toList).head? ≠ some '[' := by
      intro hhead
      obtain ⟨rest, hrest⟩ := List.head?_eq_some_iff.1 hhead
      exact hstart rest hrest
    have hpieces : splitAccounts (trim text.toList) =
        (((text.toList.splitOn ',').map trim).filter (· ≠ []) |>.map String.ofList) := by
      rw [splitAccounts_trim, splitAccounts, Text.split_eq_splitOn]
      exact congrArg (List.map _) (List.filter_congr fun piece _ ↦ by cases piece <;> simp)
    rw [hpieces, Except.ok.injEq]
    constructor
    · rintro rfl
      exact .commas hother
    · rintro (⟨hhead, -⟩ | -)
      · exact absurd hhead hother
      · rfl

theorem eq_accountList_of_readAccounts {fault : Fault} (h : readAccounts text = .error fault) :
    fault = .accountList := by
  rw [readAccounts] at h
  split at h
  · obtain ⟨cause, -, hfault⟩ := Attempts.mapError_eq_error_iff.1 h
    exact hfault
  · cases h

/-- A text that lists nothing is an array that is at fault. -/
theorem readAccounts_eq_error_iff {fault : Fault} :
    readAccounts text = .error fault ↔ fault = .accountList ∧ ∀ texts, ¬Lists text texts := by
  constructor
  · intro h
    refine ⟨eq_accountList_of_readAccounts h, fun texts hlists ↦ ?_⟩
    cases (readAccounts_eq_ok_iff.2 hlists).symm.trans h
  · rintro ⟨rfl, hnone⟩
    cases hread : readAccounts text with
    | ok texts => exact absurd (readAccounts_eq_ok_iff.1 hread) (hnone texts)
    | error fault => rw [eq_accountList_of_readAccounts hread]

/-- Without brackets a text is a list of what stands between its commas. -/
theorem readAccounts_of_not_mem (h : '[' ∉ text.toList) :
    readAccounts text = .ok (splitAccounts text.toList) := by
  rw [readAccounts]
  split
  · next rest hstart =>
    obtain ⟨before, after, htext, -, -⟩ := Text.exists_append_trim_append text.toList
    rw [htext, hstart] at h
    simp at h
  · rw [splitAccounts_trim]

/-- A spelled array lists its strings, with blanks around it or without. -/
theorem lists_of_spellsArray {before spelled after : List Char}
    (hbefore : ∀ c ∈ before, Text.isBlank c = true) (hspelled : Json.SpellsArray spelled texts)
    (hafter : ∀ c ∈ after, Text.isBlank c = true)
    (htext : text.toList = before ++ spelled ++ after) : Lists text texts := by
  obtain ⟨inner, hinner⟩ : ∃ inner, spelled = '[' :: (inner ++ [']']) := by
    cases hspelled <;> exact ⟨_, rfl⟩
  have hend : Text.StartsOff Text.isBlank spelled.reverse := by
    rw [hinner, List.reverse_cons, List.reverse_append]
    exact Text.startsOff_cons.2 (by decide)
  have htrim : trim text.toList = spelled := by
    rw [htext, Text.trim_append_right hafter, Text.trim_append_left hbefore]
    exact Text.trim_of_startsOff (hinner ▸ Text.startsOff_cons.2 (by decide)) hend
  refine .array ?_ ?_
  · rw [htrim, hinner, List.head?_cons]
  · rw [trimmed, htrim, Json.ofText_of_spellsArray hspelled]

/-- Blanks and empty texts do not count in a list of texts without commas. -/
theorem splitAccounts_of_spellsList {list : List Char} (h : SpellsList list texts)
    (htexts : ∀ text ∈ texts, ',' ∉ text.toList ∧ trim text.toList ≠ []) :
    splitAccounts list = texts.map trimmed := by
  induction h with
  | blank h =>
    rw [splitAccounts_of_not_mem (not_mem_of_forall_blank h), Text.trim_of_forall_blank h]
    rfl
  | @item before after text hbefore hafter =>
    obtain ⟨hcomma, hne⟩ := htexts text List.mem_cons_self
    have htrim : trim (before ++ text.toList ++ after) = trim text.toList := by
      rw [Text.trim_append_right hafter, Text.trim_append_left hbefore]
    have hmem : ',' ∉ before ++ text.toList ++ after :=
      List.not_mem_append (List.not_mem_append (not_mem_of_forall_blank hbefore) hcomma)
        (not_mem_of_forall_blank hafter)
    rw [splitAccounts_of_not_mem hmem, htrim, if_neg hne]
    rfl
  | comma _ _ ihlist ihlater =>
    obtain ⟨hlist, hlater⟩ := List.forall_mem_append.1 htexts
    rw [splitAccounts_append, ihlist hlist, ihlater hlater, List.map_append]

/-- A list of texts without brackets has none. -/
theorem not_mem_of_spellsList {list : List Char} (h : SpellsList list texts)
    (htexts : ∀ text ∈ texts, '[' ∉ text.toList) : '[' ∉ list := by
  have hblank {blanks : List Char} (h : ∀ c ∈ blanks, Text.isBlank c = true) : '[' ∉ blanks :=
    fun hc ↦ absurd (h '[' hc) (by decide)
  induction h with
  | blank h => exact hblank h
  | item hbefore hafter =>
    have htext := htexts _ List.mem_cons_self
    exact List.not_mem_append (List.not_mem_append (hblank hbefore) htext) (hblank hafter)
  | comma _ _ ihlist ihlater =>
    obtain ⟨hlist, hlater⟩ := List.forall_mem_append.1 htexts
    refine List.not_mem_append (ihlist hlist) fun hmem ↦ ?_
    rcases List.mem_cons.1 hmem with heq | hmem
    · cases heq
    · exact ihlater hlater hmem

end Lists

/-! ### Accounts that a text lists -/

section Accounts

variable {texts : List String} {accounts : List Account}

/-- The accounts to follow are those that the texts name. -/
theorem addresses_eq_ok_iff {settings : Settings} :
    settings.addresses = .ok accounts ↔
      List.Forall₂ (fun text account ↦ Account.read? text = some account) settings.accounts
        accounts := by
  rw [addresses, Attempts.mapM_eq_ok_iff]
  simp only [Account.ofText_eq_ok_iff]

theorem read?_trimmed (text : String) : Account.read? (trimmed text) = Account.read? text := by
  rw [Account.read?, trimmed, String.toList_ofList, Text.trim_trim, Account.read?]

/-- Both forms of a list of accounts list the same accounts, in the same order and with the same
repetitions. The strings of a JSON array are kept as they are, however they are escaped and whatever
blanks stand between the tokens; of a list with commas the empty texts are dropped and the blanks
around the others. -/
theorem account_lists_agree {array list : String} {before spelled after : List Char}
    (hread : List.Forall₂ (fun text account ↦ Account.read? text = some account) texts accounts)
    (hbefore : ∀ c ∈ before, Text.isBlank c = true) (hspelled : Json.SpellsArray spelled texts)
    (hafter : ∀ c ∈ after, Text.isBlank c = true)
    (harray : array.toList = before ++ spelled ++ after) (hlist : SpellsList list.toList texts) :
    readAccounts array = .ok texts ∧ readAccounts list = .ok (texts.map trimmed) ∧
      ∀ settings : Settings,
        { settings with accounts := texts }.addresses = .ok accounts ∧
          { settings with accounts := texts.map trimmed }.addresses = .ok accounts := by
  have hnamed : ∀ text ∈ texts, ∃ account, Account.read? text = some account :=
    Attempts.forall_of_forall₂ hread fun _ account haccount ↦ ⟨account, haccount⟩
  have hcommas : ∀ text ∈ texts, ',' ∉ text.toList ∧ trim text.toList ≠ [] := by
    intro text htext
    obtain ⟨account, hread⟩ := hnamed text htext
    exact ⟨Account.not_mem_of_read? hread (.inl rfl), Account.trim_ne_nil_of_read? hread⟩
  have hbrackets : ∀ text ∈ texts, '[' ∉ text.toList := by
    intro text htext
    obtain ⟨account, hread⟩ := hnamed text htext
    exact Account.not_mem_of_read? hread (.inr rfl)
  refine ⟨?_, ?_, fun settings ↦ ⟨addresses_eq_ok_iff.2 hread, addresses_eq_ok_iff.2 ?_⟩⟩
  · exact readAccounts_eq_ok_iff.2 (lists_of_spellsArray hbefore hspelled hafter harray)
  · rw [readAccounts_of_not_mem (not_mem_of_spellsList hlist hbrackets),
      splitAccounts_of_spellsList hlist hcommas]
  · rw [List.forall₂_map_left_iff]
    simpa only [read?_trimmed] using hread

/-! ### Two accounts in both forms -/

/-- An account with a mark, without its first digit. -/
def listedTail : List Char :=
  'x' :: List.replicate 39 '0' ++ ['1']

/-- An account without a mark, with a blank behind it. -/
def listedBare : List Char :=
  List.replicate 38 '0' ++ ['a', 'B', '\u00a0']

def listedTexts : List String :=
  [String.ofList ('0' :: listedTail), String.ofList listedBare]

/-- Both as strings, the first digit escaped. -/
def listedStrings : List Char × List Char :=
  ('"' :: ('\\' :: 'u' :: ['0', '0', '3', '0'] ++ listedTail) ++ ['"'], '"' :: listedBare ++ ['"'])

/-- The array of both, with blanks around it and between its tokens. -/
def listedArray : List Char :=
  '[' :: ([' '] ++ (listedStrings.1 ++ (['\n'] ++ ',' :: ([] ++ (listedStrings.2 ++ ['\t']))))) ++
    [']']

/-- The list of both, with a blank item in front of it. -/
def listedCommas : List Char :=
  ['\u2003'] ++ ',' :: (([] ++ '0' :: listedTail ++ [' ']) ++ ',' :: (['\t'] ++ listedBare ++ []))

theorem spellsArray_listedArray : Json.SpellsArray listedArray listedTexts := by
  have htail : ∀ c ∈ listedTail, c ≠ '"' ∧ c ≠ '\\' ∧ 0x20 ≤ c.toNat :=
    List.forall_iff_forall_mem.1 (by decide)
  have hbare : ∀ c ∈ listedBare, c ≠ '"' ∧ c ≠ '\\' ∧ 0x20 ≤ c.toNat :=
    List.forall_iff_forall_mem.1 (by decide)
  have hdigits : ∀ c ∈ ['0', '0', '3', '0'], Text.IsHexDigit c := by
    unfold Text.IsHexDigit
    exact List.forall_iff_forall_mem.1 (by decide)
  have hzero : Json.SpellsUnit ['0', '0', '3', '0'] '0'.toNat := ⟨rfl, hdigits, by decide⟩
  have hfirst : Json.SpellsString listedStrings.1 (String.ofList ('0' :: listedTail)) := by
    refine ⟨_, rfl, ?_⟩
    rw [String.toList_ofList]
    exact .cons (.unit hzero) (.of_forall htail)
  have hsecond : Json.SpellsString listedStrings.2 (String.ofList listedBare) := by
    refine ⟨_, rfl, ?_⟩
    rw [String.toList_ofList]
    exact .of_forall hbare
  exact .items (.more (List.forall_mem_singleton.2 rfl) hfirst (List.forall_mem_singleton.2 rfl)
    (.last (List.forall_mem_nil _) hsecond (List.forall_mem_singleton.2 rfl)))

theorem spellsList_listedCommas : SpellsList listedCommas listedTexts := by
  have hfirst : SpellsList ([] ++ '0' :: listedTail ++ [' '])
      [String.ofList ('0' :: listedTail)] := by
    have hitem := @SpellsList.item [] [' '] (String.ofList ('0' :: listedTail)) (by simp)
      (List.forall_mem_singleton.2 (by decide))
    rwa [String.toList_ofList] at hitem
  have hsecond : SpellsList (['\t'] ++ listedBare ++ []) [String.ofList listedBare] := by
    have hitem := @SpellsList.item ['\t'] [] (String.ofList listedBare)
      (List.forall_mem_singleton.2 (by decide)) (by simp)
    rwa [String.toList_ofList] at hitem
  exact .comma (.blank (List.forall_mem_singleton.2 (by decide))) (.comma hfirst hsecond)

/-- An escaped and a plain string of an array, and two items of a list after a blank one. -/
theorem sample_account_lists : ∃ accounts : List Account, accounts.length = 2 ∧
    readAccounts (String.ofList (['\u2003'] ++ listedArray ++ ['\n'])) = .ok listedTexts ∧
    readAccounts (String.ofList listedCommas) = .ok (listedTexts.map trimmed) ∧
    { accounts := listedTexts : Settings }.addresses = .ok accounts ∧
    { accounts := listedTexts.map trimmed : Settings }.addresses = .ok accounts := by
  have hread : List.Forall₂ (fun text account ↦ Account.read? text = some account) listedTexts
      [⟨1, by decide⟩, ⟨0xAB, by decide⟩] :=
    .cons (by decide +kernel) (.cons (by decide +kernel) .nil)
  have hbefore : ∀ c ∈ ['\u2003'], Text.isBlank c = true :=
    List.forall_mem_singleton.2 (by decide)
  have hafter : ∀ c ∈ ['\n'], Text.isBlank c = true := List.forall_mem_singleton.2 (by decide)
  have hcommas : SpellsList (String.ofList listedCommas).toList listedTexts := by
    rw [String.toList_ofList]
    exact spellsList_listedCommas
  obtain ⟨harray, hlist, haddresses⟩ := account_lists_agree hread hbefore spellsArray_listedArray
    hafter String.toList_ofList hcommas
  exact ⟨_, rfl, harray, hlist, haddresses {}⟩

end Accounts

end Settings

end RunningBalance
