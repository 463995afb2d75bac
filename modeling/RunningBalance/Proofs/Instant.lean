import Mathlib.Order.Defs.LinearOrder
import RunningBalance.Instant

/-!
# Instants as a linear order

Instants are ordered by their seconds and then by their nanoseconds, which is a linear order: the
library's notions of a least element and of a sorted list apply to them.
-/

set_option autoImplicit false
set_option relaxedAutoImplicit false

namespace RunningBalance.Instant

instance : LinearOrder Instant where
  le_refl := le_refl
  le_trans _ _ _ := le_trans
  le_antisymm _ _ := le_antisymm
  le_total := le_total
  lt_iff_le_not_ge a b := by
    rw [not_le]
    simp only [lt_def, le_def]
    omega
  toDecidableLE := inferInstance
  toDecidableEq := inferInstance
  toDecidableLT := inferInstance

end RunningBalance.Instant
