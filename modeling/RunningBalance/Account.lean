import RunningBalance.Text.Blank
import RunningBalance.Text.Hex

/-!
# Accounts

An account is named by twenty bytes, which are kept as one number: two spellings of an address are
the same account exactly when their digits are the same number. `read?` accepts either case, an
optional `0x` and blanks around; `write` gives the one canonical spelling.
-/

set_option autoImplicit false
set_option relaxedAutoImplicit false

namespace RunningBalance

namespace Account

/-- The hexadecimal digits of an account. -/
def width : Nat :=
  40

/-- There is an account for every run of so many digits. -/
def count : Nat :=
  Nat.pow 16 width

end Account

structure Account where
  number : Fin Account.count
  deriving DecidableEq, Repr

namespace Account

/-- The text after a leading `0x` or `0X`, or the whole text. -/
def dropMark : List Char → List Char
  | '0' :: 'x' :: digits => digits
  | '0' :: 'X' :: digits => digits
  | digits => digits

/-- The account that exactly forty hexadecimal digits denote. -/
def ofDigits? (digits : List Char) : Option Account :=
  if hwidth : digits.length = width then
    match hnumber : Text.hexNumber? 0 digits with
    | some number => some ⟨number, by
        have h := Text.hexNumber?_lt hnumber
        rwa [hwidth, Nat.zero_add, Nat.one_mul] at h⟩
    | none => none
  else none

def read? (text : String) : Option Account :=
  ofDigits? (dropMark (Text.trim text.toList))

/-- The mark `0x` and forty small hexadecimal digits. -/
def write (account : Account) : String :=
  String.ofList ('0' :: 'x' :: Text.hexDigits width account.number)

instance : LE Account where
  le a b := a.number ≤ b.number

theorem le_def {a b : Account} : a ≤ b ↔ a.number ≤ b.number :=
  Iff.rfl

instance (a b : Account) : Decidable (a ≤ b) :=
  decidable_of_iff _ le_def.symm

end Account

end RunningBalance
