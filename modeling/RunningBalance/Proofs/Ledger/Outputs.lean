import RunningBalance.Proofs.Amount.Units
import RunningBalance.Proofs.Ledger.Document
import RunningBalance.Proofs.Ledger.Statement
import RunningBalance.Proofs.Text.Line

/-!
# Both forms of a ledger

A ledger is rendered as lines of text or as a JSON document, by separate functions. What the lines
show is stated of the tree of the document alone (`ShowsDocument`): a header for its summary, a line
on dropped transfers if there are any, and a row for each of its entries (`ShowsEntry`).

No part of a line holds the end of one, unless the symbol of the token does, so that the lines are
told apart again in the text. `outputs_agree` is the main statement.
-/

set_option autoImplicit false
set_option relaxedAutoImplicit false

namespace RunningBalance

open Json (Draft)
open Text (IsLine isLine_append isLine_ofList)

/-! ### What lines show -/

/-- The part of a tree under a path of keys. -/
def Json.Draft.at? : List String → Draft → Option Draft
  | [], draft => some draft
  | key :: keys, draft => draft.member? key >>= at? keys

/-- The integer of an amount in a document, and a numeral in whole tokens that denotes it. -/
def Amount.InUnits (decimals : ℕ) (amount units : String) : Prop :=
  ∃ (n : ℤ) (numeral : Numeral), ofText? amount = some n ∧ units = numeral.write ∧
    numeral.value = n / 10 ^ decimals

/-- The title of a kind, an instant without what is finer than a millisecond, and the amounts of an
entry in a document, each also in whole tokens. -/
inductive ShowsEntry (display : Display) (entry : Draft) : String → Prop
  | row {source : Source} {date shown delta deltaUnits balance balanceUnits : String}
      {instant : Instant}
      (hkind : entry.at? ["origin", "kind"] = some (.string (some source.kind)))
      (hdate : entry.at? ["date"] = some (.string (some date)))
      (hread : Timestamp.read? date = some instant) (hshown : shown = Timestamp.writeMillis instant)
      (hcut : Timestamp.read? shown =
        some { instant with nanos := instant.nanos / 1000000 * 1000000 })
      (hdelta : entry.at? ["delta"] = some (.string (some delta)))
      (hdeltaUnits : Amount.InUnits display.decimals delta deltaUnits)
      (hbalance : entry.at? ["runningBalance"] = some (.string (some balance)))
      (hbalanceUnits : Amount.InUnits display.decimals balance balanceUnits) :
    ShowsEntry display entry
      ("  " ++ (source.title ++ " " ++ shown ++ " " ++ delta ++ " - balance: " ++ balance) ++
        " [" ++ deltaUnits ++ " " ++ display.symbol ++ " / " ++ balanceUnits ++ " " ++
        display.symbol ++ "]")

/-- The account of a document, and the balance and the number of entries in its summary. -/
inductive ShowsSummary (display : Display) (document : Draft) : String → Prop
  | header {account balance units : String} {entries : ℕ}
      (haccount : document.at? ["account"] = some (.string (some account)))
      (hbalance : document.at? ["summary", "balance"] = some (.string (some balance)))
      (hunits : Amount.InUnits display.decimals balance units)
      (hentries : document.at? ["summary", "entries"] = some (.integer entries)) :
    ShowsSummary display document
      ("Balance " ++ account ++ ": " ++ balance ++ " (" ++ units ++ " " ++ display.symbol ++
        "), " ++ writeCount entries ++ " entries")

/-- The line on so many dropped transfers. -/
def droppedLine (count : ℕ) : String :=
  "  " ++ writeCount count ++ " chain transfers before the first transfer-in not shown"

/-- The lines for a document. If it has no entries, one line tells the number of dropped transfers,
unless there are none. Otherwise a header comes first, then a line on dropped transfers, unless
there are none, and then a row for each entry in order. -/
inductive ShowsDocument (display : Display) (document : Draft) : List String → Prop
  | empty {account : String} {dropped : ℕ}
      (haccount : document.at? ["account"] = some (.string (some account)))
      (hdropped : document.at? ["summary", "dropped"] = some (.integer dropped))
      (hentries : document.at? ["entries"] = some (.array [])) :
    ShowsDocument display document
      ["Balance " ++ account ++ ": no transfer-in requests" ++
        if dropped = 0 then "" else " (" ++ writeCount dropped ++ " chain transfers ignored)"]
  | entries {header : String} {rows : List String} {dropped : ℕ} {entries : List Draft}
      (hdropped : document.at? ["summary", "dropped"] = some (.integer dropped))
      (hentries : document.at? ["entries"] = some (.array entries)) (hne : entries ≠ [])
      (hheader : ShowsSummary display document header)
      (hrows : List.Forall₂ (ShowsEntry display) entries rows) :
    ShowsDocument display document
      (header :: (if dropped = 0 then [] else [droppedLine dropped]) ++ rows)

/-! ### Parts of a line -/

section Lines

variable {account : Account} {ledger : Ledger} {display : Display} {entry : Entry}
  {header row : String}

theorem Amount.isLine_write (amount : ℤ) : IsLine (write amount) :=
  isLine_ofList.2 (Decimal.newline_not_mem_ofInt amount)

theorem Amount.Numeral.isLine_write (numeral : Numeral) : IsLine numeral.write := by
  have hdigits {digits : List Char} (h : ∀ c ∈ digits, c.isDigit) : '\n' ∉ digits :=
    fun hmem ↦ absurd (h '\n' hmem) (by decide)
  rw [write, isLine_ofList]
  simp only [List.mem_append, List.mem_cons, hdigits numeral.isDigit_whole,
    hdigits numeral.isDigit_fraction, or_false, not_or]
  refine ⟨?_, by decide⟩
  split <;> decide

theorem Account.isLine_write (account : Account) : IsLine account.write := by
  have halphabet : Text.hexAlphabet.Forall (· ≠ '\n') := by decide
  have hdigits : '\n' ∉ Text.hexDigits width account.number := fun hmem ↦
    List.forall_iff_forall_mem.1 halphabet _ (Text.mem_hexAlphabet_of_mem_hexDigits hmem) rfl
  rw [write, isLine_ofList]
  simp only [List.mem_cons, hdigits, or_false, not_or]
  decide

theorem Timestamp.isLine_writeMillis (instant : Instant) : IsLine (writeMillis instant) := by
  have hyear : '\n' ∉ writeYear instant.date.year := by
    unfold writeYear
    split
    · exact Decimal.newline_not_mem_padded _ _
    · rw [List.mem_cons, not_or]
      refine ⟨?_, Decimal.newline_not_mem_padded _ _⟩
      split <;> decide
  rw [writeMillis, writeWith, isLine_ofList, writeDate, writeClock]
  simp only [List.mem_append, List.mem_cons, hyear, Decimal.newline_not_mem_padded, or_false,
    false_or, List.not_mem_nil]
  decide

theorem isLine_writeCount (count : ℕ) : IsLine (writeCount count) :=
  isLine_ofList.2 (Decimal.newline_not_mem_ofNat count)

theorem Source.isLine_title (source : Source) : IsLine source.title := by
  cases source <;> decide

theorem isLine_droppedLine (count : ℕ) : IsLine (droppedLine count) := by
  simp only [droppedLine, isLine_append, isLine_writeCount]
  decide

/-- An amount in whole tokens denotes the amount that a document shows. -/
theorem Amount.inUnits_of_inUnits? {amount : ℤ} {decimals : ℕ} {units : String}
    (h : inUnits? amount decimals = some units) : InUnits decimals (write amount) units := by
  obtain ⟨whole, fraction, hsplit, rfl⟩ := exists_write_unitsNumeral h
  exact ⟨amount, _, ofText?_write amount, rfl, value_unitsNumeral hsplit⟩

theorem Amount.InUnits.isLine {decimals : ℕ} {amount units : String}
    (h : InUnits decimals amount units) : IsLine units := by
  obtain ⟨-, numeral, -, rfl, -⟩ := h
  exact numeral.isLine_write

/-- A row is its entry's line with both amounts in whole tokens behind it. -/
theorem Entry.exists_of_row? (h : entry.row? display = some row) :
    ∃ deltaUnits balanceUnits,
      Amount.InUnits display.decimals (Amount.write entry.delta) deltaUnits ∧
        Amount.InUnits display.decimals (Amount.write entry.balance) balanceUnits ∧
        row = "  " ++ entry.line ++ " [" ++ deltaUnits ++ " " ++ display.symbol ++ " / " ++
          balanceUnits ++ " " ++ display.symbol ++ "]" := by
  simp only [row?, bind, Option.bind_eq_some_iff, pure, Option.some.injEq] at h
  obtain ⟨deltaUnits, hdelta, balanceUnits, hbalance, rfl⟩ := h
  exact ⟨_, _, Amount.inUnits_of_inUnits? hdelta, Amount.inUnits_of_inUnits? hbalance, rfl⟩

/-- A row shows the entry that a document shows: its title is that of the kind in its name, which is
the kind of its event. -/
theorem Entry.showsEntry_of_row? (hdate : entry.date.IsDenoted)
    (hnamed : entry.id = entry.origin.id) (h : entry.row? display = some row) :
    ShowsEntry display entry.json.draft row := by
  obtain ⟨deltaUnits, balanceUnits, hdelta, hbalance, rfl⟩ := exists_of_row? h
  have hkind : entry.json.draft.at? ["origin", "kind"] =
      some (.string (some entry.source.kind)) := by
    rw [source, hnamed]
    rfl
  exact .row hkind rfl (Timestamp.read?_write hdate) rfl (Timestamp.read?_writeMillis hdate) rfl
    hdelta rfl hbalance

/-- The header shows the summary that a document shows. -/
theorem Ledger.showsSummary_of_header? (h : header? account ledger display = some header) :
    ShowsSummary display (document account ledger).draft header := by
  rw [header?, Option.map_eq_some_iff] at h
  obtain ⟨units, hunits, rfl⟩ := h
  exact .header rfl rfl (Amount.inUnits_of_inUnits? hunits) rfl

theorem Entry.isLine_of_row? (hsymbol : IsLine display.symbol) (h : entry.row? display = some row) :
    IsLine row := by
  obtain ⟨deltaUnits, balanceUnits, hdelta, hbalance, rfl⟩ := exists_of_row? h
  simp only [Entry.line, isLine_append, entry.source.isLine_title, Timestamp.isLine_writeMillis,
    Amount.isLine_write, hdelta.isLine, hbalance.isLine, hsymbol]
  decide

theorem Ledger.isLine_of_header? (hsymbol : IsLine display.symbol)
    (h : header? account ledger display = some header) : IsLine header := by
  rw [header?, Option.map_eq_some_iff] at h
  obtain ⟨units, hunits, rfl⟩ := h
  simp only [isLine_append, account.isLine_write, Amount.isLine_write, isLine_writeCount,
    (Amount.inUnits_of_inUnits? hunits).isLine, hsymbol]
  decide

theorem Ledger.isLine_emptyStatement (account : Account) (ledger : Ledger) :
    IsLine (emptyStatement account ledger) := by
  rw [emptyStatement]
  split <;> simp only [isLine_append, account.isLine_write, isLine_writeCount] <;> decide

end Lines

/-! ### The lines of a statement -/

section Statement

variable {account : Account} {ledger : Ledger} {display : Display} {text : String}

theorem Ledger.droppedNote_eq (ledger : Ledger) :
    ledger.droppedNote = if ledger.dropped = 0 then [] else [droppedLine ledger.dropped] :=
  rfl

theorem Ledger.isLine_droppedNote (ledger : Ledger) :
    ∀ line ∈ ledger.droppedNote, IsLine line := by
  rw [droppedNote_eq]
  split
  · exact List.forall_mem_nil _
  · exact List.forall_mem_singleton.2 (isLine_droppedLine _)

variable {entries : List Entry} {rows : List String}
  (hrows : List.Forall₂ (fun entry row ↦ Entry.row? display entry = some row) entries rows)
include hrows

theorem isLine_of_rows (hsymbol : IsLine display.symbol) : ∀ row ∈ rows, IsLine row :=
  Attempts.forall_of_forall₂ (List.Forall₂.flip hrows) fun _ _ ↦ Entry.isLine_of_row? hsymbol

theorem showsEntry_of_rows (hdates : ∀ entry ∈ entries, entry.date.IsDenoted)
    (hnamed : ∀ entry ∈ entries, entry.id = entry.origin.id) :
    List.Forall₂ (ShowsEntry display) ((entries.map Entry.json).map Json.draft) rows := by
  induction hrows with
  | nil => exact .nil
  | cons hrow _ ih =>
    obtain ⟨hdate, hlater⟩ := List.forall_mem_cons.1 hdates
    obtain ⟨hname, hnames⟩ := List.forall_mem_cons.1 hnamed
    exact .cons (Entry.showsEntry_of_row? hdate hname hrow) (ih hlater hnames)

omit hrows

/-- A statement is made of lines that show the document. -/
theorem Ledger.showsDocument_of_statement? (hsymbol : IsLine display.symbol)
    (hdates : ∀ entry ∈ ledger.entries, entry.date.IsDenoted) (hnamed : ledger.IsNamed)
    (h : statement? account ledger display = some text) :
    ∃ lines, Text.split '\n' text.toList = lines.map String.toList ∧
      ShowsDocument display (document account ledger).draft lines := by
  rw [statement?] at h
  split at h
  · next hempty =>
    obtain rfl := Option.some.inj h
    have hentries : ledger.entries = [] := List.isEmpty_iff.1 hempty
    refine ⟨[_], Text.split_of_not_mem (isLine_emptyStatement account ledger), .empty rfl rfl ?_⟩
    rw [document, hentries]
    rfl
  · next hempty =>
    simp only [bind, Option.bind_eq_some_iff, pure, Option.some.injEq] at h
    obtain ⟨header, hheader, rows, hrows, rfl⟩ := h
    rw [Attempts.mapM_eq_some_iff] at hrows
    have hlines : ∀ line ∈ header :: ledger.droppedNote ++ rows, IsLine line :=
      List.forall_mem_append.2
        ⟨List.forall_mem_cons.2 ⟨isLine_of_header? hsymbol hheader, ledger.isLine_droppedNote⟩,
          isLine_of_rows hrows hsymbol⟩
    refine ⟨_, Text.split_intercalate_lines hlines (by simp), ?_⟩
    rw [droppedNote_eq]
    refine .entries rfl rfl ?_ (showsSummary_of_header? hheader) ?_
    · have hne : ledger.entries ≠ [] := fun hnil ↦ hempty (List.isEmpty_iff.2 hnil)
      rw [Json.draftItems_eq_map]
      simpa using hne
    · rw [Json.draftItems_eq_map]
      exact showsEntry_of_rows hrows hdates hnamed

/-! ### How many lines there are -/

theorem droppedLine_injective : Function.Injective droppedLine := by
  intro count other h
  have hcounts := (String.append_right_inj _).1 ((String.append_left_inj _).1 h)
  exact Decimal.ofNat_injective (String.ofList_injective hcounts)

theorem Source.exists_title_eq_cons (source : Source) :
    ∃ c later, source.title.toList = c :: later ∧ c.isDigit = false := by
  cases source with
  | chainTransfer => exact ⟨'C', "hain transfer".toList, by decide, by decide⟩
  | transferIn => exact ⟨'T', "ransfer in".toList, by decide, by decide⟩

/-- A row starts with a title, and a line on dropped transfers with a digit. -/
theorem ShowsEntry.ne_droppedLine {entry : Draft} {row : String}
    (h : ShowsEntry display entry row) (count : ℕ) : row ≠ droppedLine count := by
  obtain ⟨digit, digits, hcount, hdigit⟩ := Decimal.exists_ofNat_eq_cons count
  cases h with
  | @row source =>
    obtain ⟨c, later, htitle, hc⟩ := source.exists_title_eq_cons
    have hblanks : "  ".toList = [' ', ' '] := by decide
    intro heq
    have hthird := congrArg (fun line : String ↦ line.toList[2]?) heq
    simp only [droppedLine, writeCount, String.append_assoc, String.toList_append,
      String.toList_ofList, hblanks, htitle, hcount, List.cons_append, List.nil_append,
      List.getElem?_cons_succ, List.getElem?_cons_zero, Option.some.injEq] at hthird
    rw [hthird, hdigit] at hc
    cases hc

section Document

variable {document : Draft} {lines : List String} {dropped : ℕ} {entries : List Draft}
  (hlines : ShowsDocument display document lines)
  (hdropped : document.at? ["summary", "dropped"] = some (.integer dropped))
  (hentries : document.at? ["entries"] = some (.array entries))
include hlines hdropped hentries

theorem ShowsDocument.length_eq :
    lines.length =
      if entries = [] then 1 else 1 + (if 0 < dropped then 1 else 0) + entries.length := by
  cases hlines with
  | empty _ _ hnone =>
    rw [hentries, Option.some.injEq, Draft.array.injEq] at hnone
    rw [if_pos hnone, List.length_singleton]
  | @entries header rows count shown hcount hshown hne _ hrows =>
    rw [hdropped, Option.some.injEq, Draft.integer.injEq, Int.ofNat_inj] at hcount
    rw [hentries, Option.some.injEq, Draft.array.injEq] at hshown
    subst hcount hshown
    rw [if_neg hne, List.length_append, List.length_cons, hrows.length_eq]
    by_cases hzero : dropped = 0
    · simp [hzero, Nat.add_comm]
    · simp [hzero, Nat.pos_of_ne_zero hzero, Nat.add_comm]

/-- If there are entries, the second line tells how many transfers are dropped if any are, and is a
row otherwise. -/
theorem ShowsDocument.second_eq_iff (hne : entries ≠ []) (count : ℕ) :
    lines[1]? = some (droppedLine count) ↔ count = dropped ∧ 0 < dropped := by
  cases hlines with
  | empty _ _ hnone =>
    rw [hentries, Option.some.injEq, Draft.array.injEq] at hnone
    exact absurd hnone hne
  | @entries header rows number shown hnumber _ _ _ hrows =>
    rw [hdropped, Option.some.injEq, Draft.integer.injEq, Int.ofNat_inj] at hnumber
    subst hnumber
    split
    · next hzero =>
      refine iff_of_false (fun hsecond ↦ ?_) fun hcount ↦ hcount.2.ne' hzero
      cases hrows with
      | nil => cases hsecond
      | cons hrow _ => exact hrow.ne_droppedLine count (Option.some.inj hsecond)
    · next hsome =>
      rw [and_iff_left (Nat.pos_of_ne_zero hsome), List.cons_append, List.getElem?_cons_succ]
      exact ⟨fun hsecond ↦ (droppedLine_injective (Option.some.inj hsecond)).symm,
        fun hcount ↦ congrArg (some ∘ droppedLine) hcount.symm⟩

end Document

end Statement

/-! ### Both forms -/

theorem Ledger.isEmpty_iff_size_eq_zero {ledger : Ledger} :
    ledger.isEmpty = true ↔ ledger.size = 0 := by
  rw [isEmpty, List.isEmpty_iff, size, List.length_eq_zero_iff]

/-- A reconciled ledger that is rendered as text is also rendered as a document. The text is made of
lines that show the document, and of no others: a single one if there are no entries, and otherwise
one more than there are entries, or two more if transfers are dropped; exactly then the second line
tells their number. -/
theorem outputs_agree {chainTransfers : List ChainTransfer} {transfersIn : List TransferIn}
    {ledger : Ledger} (h : reconcile chainTransfers transfersIn = .ok ledger) {display : Display}
    (hsymbol : IsLine display.symbol) {account : Account} {text : String}
    (htext : ledger.render? account { display with output := .text } = some text) :
    ∃ json document entries lines,
      ledger.render? account { display with output := .json } = some json ∧
      Json.Reading.ofText json = { tree := document, complete := true } ∧
      document.at? ["summary", "dropped"] = some (.integer ledger.dropped) ∧
      document.at? ["entries"] = some (.array entries) ∧ entries.length = ledger.size ∧
      Text.split '\n' text.toList = lines.map String.toList ∧
      ShowsDocument display document lines ∧
      lines.length =
        (if ledger.isEmpty then 1 else 1 + (if 0 < ledger.dropped then 1 else 0) + ledger.size) ∧
      (ledger.isEmpty = false → ∀ count, lines[1]? = some (droppedLine count) ↔
        count = ledger.dropped ∧ 0 < ledger.dropped) := by
  have hstatement : ledger.statement? account { display with output := .text } = some text := htext
  obtain ⟨lines, hsplit, hlines⟩ :=
    Ledger.showsDocument_of_statement? hsymbol (isDenoted_of_reconcile h) (isNamed_of_reconcile h)
      hstatement
  have hsize : (Json.draftItems (ledger.entries.map Entry.json)).length = ledger.size := by
    rw [Json.draftItems_eq_map, List.length_map, List.length_map, Ledger.size]
  have hnil : Json.draftItems (ledger.entries.map Entry.json) = [] ↔ ledger.isEmpty = true := by
    rw [← List.length_eq_zero_iff, hsize, Ledger.isEmpty_iff_size_eq_zero]
  refine ⟨_, _, _, lines, rfl, Json.ofText_pretty _, rfl, rfl, hsize, hsplit, hlines, ?_, ?_⟩
  · have hlength := hlines.length_eq rfl rfl
    rwa [hsize, if_congr hnil rfl rfl] at hlength
  · intro hempty count
    refine hlines.second_eq_iff rfl rfl (fun hnone ↦ ?_) count
    rw [hnil, hempty] at hnone
    cases hnone

/-- The small ledger is shown by six lines, the second of which tells the one dropped transfer. -/
theorem sample_outputs : ∃ ledger text json document lines,
    reconcile sampleChainTransfers sampleTransfersIn = .ok ledger ∧
      ledger.render? sampleAccount {} = some text ∧
      ledger.render? sampleAccount { output := .json } = some json ∧
      Json.Reading.ofText json = { tree := document, complete := true } ∧
      Text.split '\n' text.toList = lines.map String.toList ∧ ShowsDocument {} document lines ∧
      lines.length = 6 ∧ lines[1]? = some (droppedLine 1) := by
  obtain ⟨ledger, hledger, hsize, hdropped, -⟩ := reconcile_sample
  have hsafe : ({} : Display).IsSafe := .inr (by decide)
  have hrender : (ledger.render? sampleAccount {}).isSome :=
    Ledger.render?_isSome_iff.2 (.inl hsafe)
  obtain ⟨text, htext⟩ := Option.isSome_iff_exists.1 hrender
  have hsymbol : IsLine ({} : Display).symbol := by decide
  obtain ⟨json, document, entries, lines, hjson, hread, -, -, -, hsplit, hshows, hlength,
    hsecond⟩ := outputs_agree hledger hsymbol htext
  have hempty : ledger.isEmpty = false := by
    rw [← Bool.not_eq_true, Ledger.isEmpty_iff_size_eq_zero, hsize]
    decide
  rw [hempty, hsize, hdropped] at hlength
  exact ⟨ledger, text, json, document, lines, hledger, htext, hjson, hread, hsplit, hshows, hlength,
    (hsecond hempty 1).2 ⟨hdropped.symm, by rw [hdropped]; decide⟩⟩

end RunningBalance
