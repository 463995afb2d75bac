import RunningBalance.Monitor.Basic
import RunningBalance.Proofs.Account.Canonical
import RunningBalance.Proofs.Ledger.Naming
import RunningBalance.Proofs.Text.Quoted

/-!
# What a message tells

A message about a text that cannot be read quotes the text and names the event, so it says exactly
what was sent and where: the text, the event, and whether the text is an amount or a date, can be
told from the message (`unreadable_messages`), and from the message of a visit also the account.
Texts come from outside and may hold anything; what is made of them stays on one line.
-/

set_option autoImplicit false
set_option relaxedAutoImplicit false

namespace RunningBalance

open Text (IsInline IsVisible quoted)

/-! ### Names stay on their line -/

theorem Decimal.isVisible_of_mem_ofInt {n : ℤ} {c : Char} (h : c ∈ ofInt n) : IsVisible c := by
  have hdigit {d : Char} (hd : d ∈ ofNat n.natAbs) : IsVisible d := by
    have hrange := Char.isDigit_iff_toNat.1 (isDigit_of_mem_ofNat hd)
    exact ⟨Nat.le_trans (by decide) hrange.1, Nat.lt_of_le_of_lt hrange.2 (by decide)⟩
  rw [ofInt_eq, List.mem_append] at h
  rcases h with hsign | hmem
  · split at hsign
    · rw [List.mem_singleton.1 hsign]
      decide
    · cases hsign
  · exact hdigit hmem

theorem EventId.isInline_write (id : EventId) : IsInline id.write := by
  have hlabel : IsInline id.source.label := by
    refine Text.isInline_of_isVisible (List.forall_iff_forall_mem.1 ?_)
    cases id.source <;> decide
  have hjoint : IsInline "_" :=
    Text.isInline_of_isVisible (List.forall_iff_forall_mem.1 (by decide))
  have hnumber : IsInline (String.ofList (Decimal.ofInt id.number.toInt)) := by
    refine Text.isInline_of_isVisible fun c hc ↦ ?_
    rw [String.toList_ofList] at hc
    exact Decimal.isVisible_of_mem_ofInt hc
  exact Text.isInline_append.2 ⟨Text.isInline_append.2 ⟨hlabel, hjoint⟩, hnumber⟩

theorem Account.isInline_write (account : Account) : IsInline account.write := by
  refine Text.isInline_of_isVisible fun c hc ↦ ?_
  rw [write, String.toList_ofList, List.mem_cons, List.mem_cons] at hc
  rcases hc with rfl | rfl | hdigit
  · decide
  · decide
  · exact Text.isVisible_of_mem_hexAlphabet (Text.mem_hexAlphabet_of_mem_hexDigits hdigit)

/-! ### Texts that cannot be read -/

namespace Ledger.Fault

/-- The texts of an event that are read. -/
inductive Part
  | amount
  | date
  deriving DecidableEq

/-- What a message says of a text that cannot be read, before the text. -/
def Part.complaint : Part → String
  | .amount => "Invalid token amount "
  | .date => "Invalid date "

/-- The fault of a text that cannot be read. -/
def unreadable : Part → EventId → String → Fault
  | .amount => .invalidAmount
  | .date => .invalidDate

variable {part part' : Part} {event event' : EventId} {value value' : String}

theorem message_unreadable : (unreadable part event value).message =
    part.complaint ++ (quoted value ++ (" in " ++ event.write)) := by
  rw [← String.append_assoc, ← String.append_assoc]
  cases part <;> rfl

theorem isInline_message_unreadable : IsInline (unreadable part event value).message := by
  have hcomplaint : IsInline part.complaint := by
    refine Text.isInline_of_isVisible (List.forall_iff_forall_mem.1 ?_)
    cases part <;> decide
  have hplace : IsInline " in " :=
    Text.isInline_of_isVisible (List.forall_iff_forall_mem.1 (by decide))
  rw [message_unreadable, Text.isInline_append, Text.isInline_append, Text.isInline_append]
  exact ⟨hcomplaint, Text.isInline_quoted value, hplace, event.isInline_write⟩

/-- The message tells the text, the event, and what the text should have been. -/
theorem message_unreadable_inj :
    (unreadable part event value).message = (unreadable part' event' value').message ↔
      part = part' ∧ event = event' ∧ value = value' := by
  constructor
  · intro h
    rw [message_unreadable, message_unreadable] at h
    obtain rfl : part = part' := by
      have hlist := congrArg String.toList h
      cases part <;> cases part'
      · rfl
      · simp [Part.complaint] at hlist
      · simp [Part.complaint] at hlist
      · rfl
    obtain ⟨rfl, hplace⟩ := Text.quoted_append_inj.1 ((String.append_right_inj _).1 h)
    exact ⟨rfl, EventId.write_inj.1 ((String.append_right_inj _).1 hplace), rfl⟩
  · rintro ⟨rfl, rfl, rfl⟩
    rfl

end Ledger.Fault

namespace Monitor.Fault

variable {account account' : Account} {fault fault' : Ledger.Fault}

theorem message_reconciliation : (reconciliation account fault).message =
    "Failed to reconcile account " ++ (account.write ++ (": " ++ fault.message)) := by
  rw [← String.append_assoc, ← String.append_assoc]
  rfl

theorem isInline_message_reconciliation (h : IsInline fault.message) :
    IsInline (reconciliation account fault).message := by
  have hstart : IsInline "Failed to reconcile account " :=
    Text.isInline_of_isVisible (List.forall_iff_forall_mem.1 (by decide))
  have hcolon : IsInline ": " :=
    Text.isInline_of_isVisible (List.forall_iff_forall_mem.1 (by decide))
  rw [message_reconciliation, Text.isInline_append, Text.isInline_append, Text.isInline_append]
  exact ⟨hstart, account.isInline_write, hcolon, h⟩

/-- The message of a visit tells the account and the message of its fault. -/
theorem message_reconciliation_inj :
    (reconciliation account fault).message = (reconciliation account' fault').message ↔
      account = account' ∧ fault.message = fault'.message := by
  constructor
  · intro h
    rw [message_reconciliation, message_reconciliation, String.append_right_inj] at h
    have hlist := congrArg String.toList h
    simp only [String.toList_append] at hlist
    -- Accounts are all written in as many characters.
    have hlength : account.write.toList.length = account'.write.toList.length := by
      rw [Account.length_write, Account.length_write]
    obtain ⟨haccount, hrest⟩ := List.append_inj hlist hlength
    exact ⟨Account.write_injective (String.toList_inj.1 haccount),
      String.toList_inj.1 (List.append_cancel_left hrest)⟩
  · rintro ⟨rfl, hfault⟩
    rw [message_reconciliation, message_reconciliation, hfault]

end Monitor.Fault

open Ledger.Fault (Part unreadable) in
/-- The message about an amount or a date that cannot be read stays on one line, whatever the text
is, and so does the message of the visit that fails with it. Two such messages are the same only if
they are about the same text, the same event and the same of its texts, and those of two visits only
if the accounts are the same as well. -/
theorem unreadable_messages (part part' : Part) (event event' : EventId) (value value' : String)
    (account account' : Account) :
    IsInline (unreadable part event value).message ∧
      IsInline (Monitor.Fault.reconciliation account (unreadable part event value)).message ∧
      ((unreadable part event value).message = (unreadable part' event' value').message ↔
        part = part' ∧ event = event' ∧ value = value') ∧
      ((Monitor.Fault.reconciliation account (unreadable part event value)).message =
          (Monitor.Fault.reconciliation account' (unreadable part' event' value')).message ↔
        account = account' ∧ part = part' ∧ event = event' ∧ value = value') := by
  have hinline : IsInline (unreadable part event value).message :=
    Ledger.Fault.isInline_message_unreadable
  refine ⟨hinline, Monitor.Fault.isInline_message_reconciliation hinline,
    Ledger.Fault.message_unreadable_inj, ?_⟩
  rw [Monitor.Fault.message_reconciliation_inj, Ledger.Fault.message_unreadable_inj]

/-- A text that looks like the end of the message about it. -/
example : (Ledger.Fault.unreadable .date ⟨.transferIn, 7⟩ "\" in transfer_in_1\n").message =
    "Invalid date \"\\\" in transfer_in_1\\n\" in transfer_in_7" := by
  decide +kernel

end RunningBalance
