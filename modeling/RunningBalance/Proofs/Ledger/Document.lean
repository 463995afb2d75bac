import RunningBalance.Ledger.Statement
import RunningBalance.Proofs.Account
import RunningBalance.Proofs.Json.Reading
import RunningBalance.Proofs.Ledger.Balance
import RunningBalance.Proofs.Timestamp.Written
import RunningBalance.Proofs.Transfer

/-!
# Documents lose nothing

The text of a document is read with the readers that the program has for accounts, dates, amounts
and events (`Document.read?`). A ledger made by a reconciliation has only dates that texts denote,
so its document gives back the account, the number of dropped transfers and every row, and no other
ledger or account has the same document (`read?_document`).
-/

set_option autoImplicit false
set_option relaxedAutoImplicit false

namespace RunningBalance

/-! ### Parts of a JSON tree -/

namespace Json.Draft

/-- The value of the first member with a key. -/
def member? (key : String) : Draft → Option Draft
  | .object members => members.lookup (some key)
  | _ => none

def text? : Draft → Option String
  | .string value => value
  | _ => none

def natural? : Draft → Option ℕ
  | .integer value => value.toNat?
  | _ => none

def items? : Draft → Option (List Draft)
  | .array items => some items
  | _ => none

end Json.Draft

open Json (Draft)

/-! ### Reading a document -/

/-- The number of 64 bits in the name of an event of one kind. -/
def Source.number? (source : Source) (text : String) : Option Int64 := do
  let digits ← Text.after? (source.label ++ "_").toList text.toList
  let number ← (Decimal.integer digits).toOption
  if (Int64.ofInt number).toInt = number then some (Int64.ofInt number) else none

/-- The event that a name belongs to. -/
def EventId.read? (text : String) : Option EventId :=
  match Source.chainTransfer.number? text, Source.transferIn.number? text with
  | some number, _ => some { source := .chainTransfer, number }
  | none, some number => some { source := .transferIn, number }
  | none, none => none

/-- An amount written as a numeral with a sign. -/
def Amount.ofText? (text : String) : Option ℤ :=
  (Decimal.integer text.toList).toOption

/-- The event in a tree that tells its kind. -/
def Event.ofDraft? (draft : Draft) : Option Event := do
  let kind ← draft.member? "kind" >>= Draft.text?
  let event ← draft.member? "event"
  if kind = Source.chainTransfer.kind then
    (ChainTransfer.ofDraft event).toOption.map .chainTransfer
  else if kind = Source.transferIn.kind then (TransferIn.ofDraft event).toOption.map .transferIn
  else none

/-- A row of a document: the name that stands in it, and the entry it shows. -/
def Entry.ofDraft? (draft : Draft) : Option (EventId × Entry) := do
  let id ← draft.member? "id" >>= Draft.text? >>= EventId.read?
  let date ← draft.member? "date" >>= Draft.text? >>= Timestamp.read?
  let delta ← draft.member? "delta" >>= Draft.text? >>= Amount.ofText?
  let balance ← draft.member? "runningBalance" >>= Draft.text? >>= Amount.ofText?
  let origin ← draft.member? "origin" >>= Event.ofDraft?
  pure (id, { id, date, delta, balance, origin })

/-- What a document says of an account. -/
structure Document where
  account : Account
  dropped : ℕ
  rows : List (EventId × Entry)

/-- A document in a tree. -/
def Document.ofDraft? (draft : Draft) : Option Document := do
  let account ← draft.member? "account" >>= Draft.text? >>= Account.read?
  let dropped ← draft.member? "summary" >>= Draft.member? "dropped" >>= Draft.natural?
  let rows ← draft.member? "entries" >>= Draft.items? >>= List.mapM Entry.ofDraft?
  pure { account, dropped, rows }

/-- The document that a text is, if it is one whole JSON value. -/
def Document.read? (text : String) : Option Document :=
  let reading := Json.Reading.ofText text
  if reading.complete then ofDraft? reading.tree else none

/-! ### Written parts are read back -/

theorem Source.number?_write (source : Source) (number : Int64) :
    source.number? (EventId.write { source, number }) = some number := by
  have hlabel : Text.after? (source.label ++ "_").toList (source.label ++ "_").toList =
      some [] := by
    cases source <;> decide
  have hname : (EventId.write { source, number }).toList =
      (source.label ++ "_").toList ++ Decimal.ofInt number.toInt := by
    rw [EventId.write, String.toList_append, String.toList_ofList]
  rw [number?, hname, Text.after?_append hlabel, List.nil_append, Option.bind_eq_bind,
    Option.bind_some, Decimal.integer_ofInt]
  change (if (Int64.ofInt number.toInt).toInt = number.toInt then _ else _) = _
  rw [number.ofInt_toInt, if_pos rfl]

theorem EventId.read?_write (id : EventId) : read? id.write = some id := by
  obtain ⟨source, number⟩ := id
  have hnumber := source.number?_write number
  cases source with
  | chainTransfer => rw [read?, hnumber]
  | transferIn =>
    have hother :
        Source.chainTransfer.number? (write { source := .transferIn, number }) = none := by
      simp [Source.number?, write, Source.label, Text.after?]
    rw [read?, hother, hnumber]

theorem Amount.ofText?_write (amount : ℤ) : ofText? (write amount) = some amount := by
  rw [ofText?, write, String.toList_ofList, Decimal.integer_ofInt]
  rfl

theorem Event.ofDraft?_taggedJson (event : Event) :
    ofDraft? event.taggedJson.draft = some event := by
  have hkind : event.taggedJson.draft.member? "kind" = some (.string (some event.source.kind)) := by
    rfl
  have hevent : event.taggedJson.draft.member? "event" = some event.json.draft := by
    rfl
  rw [ofDraft?, hkind, hevent]
  cases event with
  | chainTransfer transfer =>
    have hread : ChainTransfer.ofDraft (Event.chainTransfer transfer).json.draft = .ok transfer :=
      ChainTransfer.ofDraft_json transfer
    simp [Draft.text?, Event.source, hread, Except.toOption]
  | transferIn transfer =>
    have hread : TransferIn.ofDraft (Event.transferIn transfer).json.draft = .ok transfer :=
      TransferIn.ofDraft_json transfer
    simp [Draft.text?, Event.source, Source.kind, hread, Except.toOption]

/-- An entry with a date that a text denotes is read back, and so is the name in its row. -/
theorem Entry.ofDraft?_json {entry : Entry} (hdate : entry.date.IsDenoted) :
    ofDraft? entry.json.draft = some (entry.id, entry) := by
  have hid : entry.json.draft.member? "id" = some (.string (some entry.id.write)) := rfl
  have hdate' : entry.json.draft.member? "date" =
      some (.string (some (Timestamp.write entry.date))) := rfl
  have hdelta : entry.json.draft.member? "delta" =
      some (.string (some (Amount.write entry.delta))) := rfl
  have hbalance : entry.json.draft.member? "runningBalance" =
      some (.string (some (Amount.write entry.balance))) := rfl
  have horigin : entry.json.draft.member? "origin" = some entry.origin.taggedJson.draft := rfl
  simp [ofDraft?, hid, hdate', hdelta, hbalance, horigin, Draft.text?, EventId.read?_write,
    Timestamp.read?_write hdate, Amount.ofText?_write, Event.ofDraft?_taggedJson]

/-! ### Documents of reconciliations -/

/-- A row of a reconciliation has a date that a text denotes. -/
theorem isDenoted_of_reconcile {chainTransfers : List ChainTransfer} {transfersIn : List TransferIn}
    {ledger : Ledger} (h : reconcile chainTransfers transfersIn = .ok ledger) :
    ∀ entry ∈ ledger.entries, entry.date.IsDenoted := by
  intro entry hentry
  obtain ⟨ms, hread, rfl⟩ := reconcile_eq_ok_iff.1 h
  have hdate := (hread.isRead _ (Ledger.movement_mem_of_mem_entries hentry)).date
  obtain ⟨text, -, hread⟩ := Option.bind_eq_some_iff.1 hdate
  exact Timestamp.isDenoted_of_read? hread

/-- Rows with dates that texts denote are read back in their order. -/
theorem mapM_ofDraft? {entries : List Entry} (hdates : ∀ entry ∈ entries, entry.date.IsDenoted) :
    (Json.draftItems (entries.map Entry.json)).mapM Entry.ofDraft? =
      some (entries.map fun entry ↦ (entry.id, entry)) := by
  induction entries with
  | nil => rfl
  | cons entry entries ih =>
    obtain ⟨hdate, hlater⟩ := List.forall_mem_cons.1 hdates
    rw [List.map_cons, Json.draftItems, List.mapM_cons, Entry.ofDraft?_json hdate, ih hlater]
    rfl

/-- The document of a ledger whose dates texts denote gives back all it was made from. -/
theorem Document.ofDraft?_document (account : Account) {ledger : Ledger}
    (hdates : ∀ entry ∈ ledger.entries, entry.date.IsDenoted) :
    ofDraft? (Ledger.document account ledger).draft =
      some
        { account
          dropped := ledger.dropped
          rows := ledger.entries.map fun entry ↦ (entry.id, entry) } := by
  have haccount : (Ledger.document account ledger).draft.member? "account" =
      some (.string (some account.write)) := rfl
  have hdropped : (Ledger.document account ledger).draft.member? "summary" >>=
      Draft.member? "dropped" = some (.integer ledger.dropped) := rfl
  have hentries : (Ledger.document account ledger).draft.member? "entries" =
      some (.array (Json.draftItems (ledger.entries.map Entry.json))) := rfl
  have hcount : (Draft.integer ledger.dropped).natural? = some ledger.dropped := rfl
  simp [ofDraft?, haccount, hdropped, hentries, hcount, mapM_ofDraft? hdates, Draft.text?,
    Draft.items?, Account.read?_write]

theorem Document.read?_pretty (json : Json) : read? json.pretty = ofDraft? json.draft := by
  rw [read?, Json.ofText_pretty]
  rfl

theorem Ledger.render?_json (account : Account) (ledger : Ledger) {display : Display}
    (h : display.output = .json) :
    render? account ledger display = some (document account ledger).pretty := by
  rw [render?, h]

/-- The document that a reconciled ledger is rendered as is one JSON value, the one that was
rendered, and gives back the account, the number of dropped transfers, and for each row in order the
name of its event, its date, its amounts and the event itself. So another ledger or account has
another document. -/
theorem read?_document {chainTransfers : List ChainTransfer} {transfersIn : List TransferIn}
    {ledger : Ledger} {display : Display} (h : reconcile chainTransfers transfersIn = .ok ledger)
    (hdisplay : display.output = .json) (account : Account) :
    ∃ text, Ledger.render? account ledger display = some text ∧
      Json.Reading.ofText text =
        { tree := (Ledger.document account ledger).draft, complete := true } ∧
      Document.read? text =
        some
          { account
            dropped := ledger.dropped
            rows := ledger.entries.map fun entry ↦ (entry.id, entry) } ∧
      ∀ chainTransfers' transfersIn' ledger' display' account',
        reconcile chainTransfers' transfersIn' = .ok ledger' → display'.output = .json →
          Ledger.render? account' ledger' display' = some text →
            account' = account ∧ ledger' = ledger := by
  have hread := Document.ofDraft?_document account (isDenoted_of_reconcile h)
  rw [← Document.read?_pretty] at hread
  refine ⟨_, Ledger.render?_json account ledger hdisplay, Json.ofText_pretty _, hread, ?_⟩
  intro chainTransfers' transfersIn' ledger' display' account' h' hdisplay' hsame
  have hread' := Document.ofDraft?_document account' (isDenoted_of_reconcile h')
  rw [Ledger.render?_json account' ledger' hdisplay', Option.some.injEq] at hsame
  rw [← Document.read?_pretty, hsame, hread, Option.some.injEq, Document.mk.injEq] at hread'
  obtain ⟨haccount, hdropped, hrows⟩ := hread'
  have hinjective : Function.Injective fun entry : Entry ↦ (entry.id, entry) :=
    fun _ _ heq ↦ (Prod.mk.inj heq).2
  have hentries : ledger.entries = ledger'.entries := List.map_injective_iff.2 hinjective hrows
  refine ⟨haccount.symm, ?_⟩
  rw [Ledger.mk.injEq]
  exact ⟨hentries.symm, hdropped.symm⟩

/-- An account for the small ledger. -/
def sampleAccount : Account where
  number := ⟨7, by decide⟩

/-- The document of the small ledger has its four rows and the one dropped transfer. -/
theorem sample_document :
    ∃ ledger text document, reconcile sampleChainTransfers sampleTransfersIn = .ok ledger ∧
      Ledger.render? sampleAccount ledger { output := .json } = some text ∧
      Document.read? text = some document ∧ document.account = sampleAccount ∧
      document.dropped = 1 ∧ document.rows.length = 4 := by
  obtain ⟨ledger, hledger, hsize, hdropped, -⟩ := reconcile_sample
  have hdisplay : ({ output := .json } : Display).output = .json := rfl
  obtain ⟨text, hrender, -, hread, -⟩ := read?_document hledger hdisplay sampleAccount
  exact ⟨ledger, text, _, hledger, hrender, hread, rfl, hdropped, by rwa [List.length_map]⟩

end RunningBalance
