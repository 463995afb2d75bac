import RunningBalance.Account
import RunningBalance.Proofs.Text.Hex
import RunningBalance.Proofs.Text.Run

/-!
# Accounts are read back

The canonical spelling of an account denotes that account (`read?_write`).
-/

set_option autoImplicit false
set_option relaxedAutoImplicit false

namespace RunningBalance.Account

theorem ofDigits?_eq_some {digits : List Char} {account : Account} (hwidth : digits.length = width)
    (hnumber : Text.hexNumber? 0 digits = some account.number) :
    ofDigits? digits = some account := by
  rw [ofDigits?, dif_pos hwidth]
  split
  · next number hread =>
    obtain rfl := Option.some.inj (hnumber.symm.trans hread)
    rfl
  · next hread => cases hnumber.symm.trans hread

theorem read?_write (account : Account) : read? account.write = some account := by
  have hplain : ∀ digit < 16, Text.isBlank (Nat.digitChar digit) = false := by decide
  have htrim : Text.trim account.write.toList = account.write.toList := by
    refine Text.trim_of_forall fun c hc ↦ ?_
    rw [write, String.toList_ofList] at hc
    rcases List.mem_cons.1 hc with rfl | hc
    · decide
    · rcases List.mem_cons.1 hc with rfl | hc
      · decide
      · obtain ⟨digit, hlt, rfl⟩ := Text.mem_hexDigits hc
        exact hplain digit hlt
  rw [read?, htrim, write, String.toList_ofList]
  exact ofDigits?_eq_some (Text.length_hexDigits _ _)
    (Text.hexNumber?_hexDigits account.number.isLt)

end RunningBalance.Account
