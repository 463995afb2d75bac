import Mathlib
import RunningBalance.Backend.Fetch
import RunningBalance.Proofs.Account

/-!
# One spelling for each account

A text spells an account by forty hexadecimal digits of either case, a mark before them or none, and
blanks around (`Spells`). Reading accepts exactly these texts, and the account is the value of the
digits (`read?_eq_some_iff`).

Of all the spellings of an account the canonical one is written, which is `0x` and the digits in
small letters (`write_eq`). Canonical spellings stand in the order of the accounts
(`compare_write`), and since they are all of one length the URL of an account's transfers can be
taken apart again, whatever the URL of the backend looks like (`accountUrl_eq_accountUrl_iff`).
-/

set_option autoImplicit false
set_option relaxedAutoImplicit false

namespace RunningBalance

open Text (IsHexDigit hexAlphabet hexValue isBlank)

namespace Account

/-! ### Spellings -/

/-- What may stand before the digits. -/
def marks : List (List Char) :=
  [[], ['0', 'x'], ['0', 'X']]

/-- The text spells an account by the digits. -/
structure Spells (text : String) (digits : List Char) : Prop where
  length_eq : digits.length = 40
  isHexDigit : ∀ c ∈ digits, IsHexDigit c
  layout : ∃ before after, ∃ mark ∈ marks, text.toList = before ++ (mark ++ digits) ++ after ∧
    (∀ c ∈ before, isBlank c = true) ∧ ∀ c ∈ after, isBlank c = true

/-- The canonical spellings: the mark `0x` and forty small digits. -/
def IsCanonical (text : String) : Prop :=
  ∃ digits : List Char, text = String.ofList ('0' :: 'x' :: digits) ∧ digits.length = 40 ∧
    ∀ c ∈ digits, c ∈ hexAlphabet

variable {text : String} {digits : List Char} {account : Account}

/-- Digits do not begin with a mark, since no mark ends in a digit. -/
theorem dropMark_append {mark : List Char} (hmark : mark ∈ marks)
    (hdigits : ∀ c ∈ digits, IsHexDigit c) : dropMark (mark ++ digits) = digits := by
  have hnone : dropMark digits = digits := by
    unfold dropMark
    split
    · exact absurd (hdigits 'x' (by simp)) (by unfold IsHexDigit; decide)
    · exact absurd (hdigits 'X' (by simp)) (by unfold IsHexDigit; decide)
    · rfl
  simp only [marks, List.mem_cons, List.not_mem_nil, or_false] at hmark
  rcases hmark with rfl | rfl | rfl
  · exact hnone
  · rfl
  · rfl

theorem exists_mark (text : List Char) : ∃ mark ∈ marks, text = mark ++ dropMark text := by
  unfold dropMark
  split
  · exact ⟨['0', 'x'], by decide, rfl⟩
  · exact ⟨['0', 'X'], by decide, rfl⟩
  · exact ⟨[], by decide, rfl⟩

theorem ofDigits?_eq_some_iff :
    ofDigits? digits = some account ↔
      digits.length = 40 ∧ (∀ c ∈ digits, IsHexDigit c) ∧ account.number = hexValue digits := by
  constructor
  · intro h
    unfold ofDigits? at h
    split at h
    · next hwidth =>
      split at h
      · next number hnumber =>
        obtain ⟨hdigits, hvalue⟩ := Text.hexNumber?_eq_some_iff.1 hnumber
        rw [Nat.mul_zero, Nat.zero_add] at hvalue
        cases h
        exact ⟨hwidth, hdigits, hvalue⟩
      · cases h
    · cases h
  · rintro ⟨hlength, hdigits, hvalue⟩
    refine ofDigits?_eq_some hlength (Text.hexNumber?_eq_some_iff.2 ⟨hdigits, ?_⟩)
    rw [hvalue, Nat.mul_zero, Nat.zero_add]

/-- Reading accepts exactly the spellings, and the account is the value of the digits. -/
theorem read?_eq_some_iff :
    read? text = some account ↔
      ∃ digits, Spells text digits ∧ account.number = hexValue digits := by
  rw [read?, ofDigits?_eq_some_iff]
  constructor
  · rintro ⟨hlength, hdigits, hvalue⟩
    obtain ⟨before, after, htext, hbefore, hafter⟩ := Text.exists_append_trim_append text.toList
    obtain ⟨mark, hmark, htrim⟩ := exists_mark (Text.trim text.toList)
    rw [htrim] at htext
    exact ⟨_, ⟨hlength, hdigits, before, after, mark, hmark, htext, hbefore, hafter⟩, hvalue⟩
  · rintro ⟨digits, ⟨hlength, hdigits, before, after, mark, hmark, htext, hbefore, hafter⟩, hvalue⟩
    have hmarks : marks.all fun mark ↦ mark.all fun c ↦ !isBlank c := by decide
    have hplain : ∀ c ∈ mark ++ digits, isBlank c = false := by
      intro c hc
      rcases List.mem_append.1 hc with hc | hc
      · simpa using List.all_eq_true.1 (List.all_eq_true.1 hmarks mark hmark) c hc
      · exact (hdigits c hc).isBlank_eq_false
    rw [htext, Text.trim_append_append hbefore hplain hafter, dropMark_append hmark hdigits]
    exact ⟨hlength, hdigits, hvalue⟩

/-- A spelling is read as the account of the value of its digits. -/
theorem Spells.exists_read (h : Spells text digits) :
    ∃ account, read? text = some account ∧ account.number = hexValue digits := by
  have hlt : hexValue digits < count := by
    have hvalue := Text.hexValue_lt h.isHexDigit
    rwa [h.length_eq] at hvalue
  exact ⟨⟨hexValue digits, hlt⟩, read?_eq_some_iff.2 ⟨digits, h, rfl⟩, rfl⟩

theorem Spells.number_eq (h : Spells text digits) (hread : read? text = some account) :
    account.number = hexValue digits := by
  obtain ⟨account', hread', hnumber⟩ := h.exists_read
  cases hread.symm.trans hread'
  exact hnumber

/-- The canonical spelling has the digits of any other spelling in small letters. -/
theorem Spells.write_eq (h : Spells text digits) (hread : read? text = some account) :
    account.write = String.ofList ('0' :: 'x' :: digits.map Char.toLower) := by
  rw [write, h.number_eq hread, ← Text.hexDigits_hexValue h.isHexDigit, h.length_eq]
  rfl

theorem isCanonical_write (account : Account) : IsCanonical account.write :=
  ⟨_, rfl, Text.length_hexDigits _ _, fun _ ↦ Text.mem_hexAlphabet_of_mem_hexDigits⟩

theorem length_write (account : Account) : account.write.toList.length = 42 := by
  rw [write, String.toList_ofList, List.length_cons, List.length_cons, Text.length_hexDigits]
  rfl

theorem write_injective : Function.Injective write := by
  intro a b h
  have hread := read?_write a
  rw [h, read?_write] at hread
  exact (Option.some.inj hread).symm

/-! ### Order -/

theorem number_inj {a b : Account} : a.number = b.number ↔ a = b :=
  ⟨fun h ↦ congrArg Account.mk h, fun h ↦ h ▸ rfl⟩

/-- Canonical spellings stand in the order of the accounts. -/
theorem write_lt_write_iff {a b : Account} : a.write < b.write ↔ a.number < b.number := by
  have hdigits : ∀ a : Account, hexValue (Text.hexDigits width a.number) = a.number := fun a ↦
    Text.hexValue_hexDigits a.number.isLt
  rw [String.lt_iff_toList_lt, write, write, String.toList_ofList, String.toList_ofList,
    List.cons_lt_cons_self, List.cons_lt_cons_self,
    Text.lt_iff_hexValue_lt (by rw [Text.length_hexDigits, Text.length_hexDigits])
      (fun _ ↦ Text.mem_hexAlphabet_of_mem_hexDigits)
      (fun _ ↦ Text.mem_hexAlphabet_of_mem_hexDigits),
    hdigits, hdigits]
  rfl

theorem compare_write (a b : Account) :
    compare a.write b.write = compare (a.number : ℕ) b.number := by
  rcases Nat.lt_trichotomy a.number b.number with hlt | heq | hgt
  · rw [compare_lt_iff_lt.2 hlt, compare_lt_iff_lt.2 (write_lt_write_iff.2 hlt)]
  · rw [compare_eq_iff_eq.2 heq, number_inj.1 (Fin.ext heq), compare_eq_iff_eq.2 rfl]
  · rw [compare_gt_iff_gt.2 hgt, compare_gt_iff_gt.2 (write_lt_write_iff.2 hgt)]

end Account

/-! ### URLs -/

namespace Backend

open Account (write length_write)

/-- The texts are equal up to the slashes that end them. -/
def SameUpToSlashes (url url' : String) : Prop :=
  ∃ stem : List Char, ∃ m n, url.toList = stem ++ List.replicate m '/' ∧
    url'.toList = stem ++ List.replicate n '/'

variable {url url' : String} {account account' : Account}

theorem sameUpToSlashes_iff :
    SameUpToSlashes url url' ↔
      Text.dropTrailing (· = '/') url.toList = Text.dropTrailing (· = '/') url'.toList := by
  constructor
  · rintro ⟨stem, m, n, hurl, hurl'⟩
    have hslashes : ∀ n, ∀ c ∈ List.replicate n '/', decide (c = '/') = true := fun n c hc ↦
      decide_eq_true (List.eq_of_mem_replicate hc)
    rw [hurl, hurl', Text.dropTrailing_append_of_forall (hslashes m),
      Text.dropTrailing_append_of_forall (hslashes n)]
  · intro h
    obtain ⟨m, hurl, -⟩ := Text.exists_append_replicate '/' url.toList
    obtain ⟨n, hurl', -⟩ := Text.exists_append_replicate '/' url'.toList
    rw [← h] at hurl'
    exact ⟨_, m, n, hurl, hurl'⟩

/-- The URL of an account's transfers is the backend's with an end of fixed length. So it tells the
account and the backend's URL, also where this URL ends like that of an account. -/
theorem accountUrl_eq_accountUrl_iff :
    accountUrl url account = accountUrl url' account' ↔
      account = account' ∧ SameUpToSlashes url url' := by
  rw [sameUpToSlashes_iff]
  have hurl : ∀ url account, (accountUrl url account).toList =
      Text.dropTrailing (· = '/') url.toList ++
        ("/account/".toList ++ (write account).toList ++ "/in".toList) := by
    intro url account
    simp only [accountUrl, String.toList_append, String.toList_ofList, List.append_assoc]
  constructor
  · intro h
    have hlist := congrArg String.toList h
    rw [hurl, hurl] at hlist
    obtain ⟨hbackend, hend⟩ := List.append_inj' hlist (by
      simp only [List.length_append, length_write])
    have hwrite := List.append_cancel_left (List.append_cancel_right hend)
    exact ⟨Account.write_injective (String.toList_inj.1 hwrite), hbackend⟩
  · rintro ⟨rfl, hbackend⟩
    rw [← String.toList_inj, hurl, hurl, hbackend]

end Backend

/-! ### One spelling for each account -/

namespace Account

/-- The spellings of accounts are what is read, each account has one canonical spelling that is read
as the account itself, and of two accounts that are read equality, order and the URLs of their
transfers are those of the numbers that the digits denote. -/
theorem spelling_canonical (text text' url url' : String) :
    ((∃ account, read? text = some account) ↔ ∃ digits, Spells text digits) ∧
    (∀ account, read? text = some account →
      IsCanonical account.write ∧ read? account.write = some account) ∧
    ∀ account account' digits digits', read? text = some account → read? text' = some account' →
      Spells text digits → Spells text' digits' →
        hexValue digits < 2 ^ 160 ∧
        account.write = String.ofList ('0' :: 'x' :: digits.map Char.toLower) ∧
        (account = account' ↔ hexValue digits = hexValue digits') ∧
        (account ≤ account' ↔ hexValue digits ≤ hexValue digits') ∧
        compare account.write account'.write = compare (hexValue digits) (hexValue digits') ∧
        (Backend.accountUrl url account = Backend.accountUrl url' account' ↔
          hexValue digits = hexValue digits' ∧ Backend.SameUpToSlashes url url') := by
  refine ⟨⟨?_, ?_⟩, ?_, ?_⟩
  · rintro ⟨account, hread⟩
    obtain ⟨digits, hspells, -⟩ := read?_eq_some_iff.1 hread
    exact ⟨digits, hspells⟩
  · rintro ⟨digits, hspells⟩
    obtain ⟨account, hread, -⟩ := hspells.exists_read
    exact ⟨account, hread⟩
  · exact fun account _ ↦ ⟨isCanonical_write account, read?_write account⟩
  · intro account account' digits digits' hread hread' hspells hspells'
    have hnumber := hspells.number_eq hread
    have hnumber' := hspells'.number_eq hread'
    have hsame : account = account' ↔ hexValue digits = hexValue digits' := by
      rw [← number_inj, Fin.ext_iff, hnumber, hnumber']
    refine ⟨?_, hspells.write_eq hread, hsame, ?_, ?_, ?_⟩
    · calc hexValue digits < 16 ^ digits.length := Text.hexValue_lt hspells.isHexDigit
        _ = 2 ^ 160 := by rw [hspells.length_eq]; norm_num
    · rw [le_def, Fin.le_def, hnumber, hnumber']
    · rw [compare_write, hnumber, hnumber']
    · rw [Backend.accountUrl_eq_accountUrl_iff, hsame]

/-- An account spelled with blanks around, a mark and letters of either case. -/
def sampleSpelling : String :=
  " 0X00000000000000000000000000000000000000aB\n"

/-- The digits of `sampleSpelling`. -/
def sampleDigits : List Char :=
  List.replicate 38 '0' ++ ['a', 'B']

/-- Two spellings of one account, and two URLs of one backend that differ in their slashes. -/
theorem sample_spelling_canonical :
    Spells sampleSpelling sampleDigits ∧ Spells (String.ofList sampleDigits) sampleDigits ∧
    ∃ account, read? sampleSpelling = some account ∧
      read? (String.ofList sampleDigits) = some account ∧
      account.write = "0x00000000000000000000000000000000000000ab" ∧
      Backend.accountUrl "http://host//" account = Backend.accountUrl "http://host" account := by
  have hdigits : ∀ c ∈ sampleDigits, IsHexDigit c := by
    refine List.forall_iff_forall_mem.1 ?_
    unfold IsHexDigit
    decide
  have hspells : Spells sampleSpelling sampleDigits :=
    ⟨rfl, hdigits, [' '], ['\n'], ['0', 'X'], by decide, by decide, by simp; decide,
      by simp; decide⟩
  have hbare : Spells (String.ofList sampleDigits) sampleDigits :=
    ⟨rfl, hdigits, [], [], [], by decide, by rw [String.toList_ofList]; simp, by simp, by simp⟩
  have hbackend : Backend.SameUpToSlashes "http://host//" "http://host" :=
    ⟨"http://host".toList, 2, 0, by decide, by decide⟩
  obtain ⟨haccepted, -, hcanonical⟩ := spelling_canonical sampleSpelling
    (String.ofList sampleDigits) "http://host//" "http://host"
  obtain ⟨account, hread⟩ := haccepted.2 ⟨_, hspells⟩
  obtain ⟨account', hread', -⟩ := hbare.exists_read
  obtain ⟨-, hwrite, hsame, -, -, hurl⟩ := hcanonical _ _ _ _ hread hread' hspells hbare
  obtain rfl := hsame.2 rfl
  exact ⟨hspells, hbare, account, hread, hread', by rw [hwrite]; decide,
    hurl.2 ⟨rfl, hbackend⟩⟩

end Account

end RunningBalance
