import RunningBalance.Proofs.Decimal
import RunningBalance.Text.Split

/-!
# Pieces and lines of a text

A separator divides a text into pieces before it and behind it (`Text.split_append_cons`). A text is
a line if it does not hold the end of one (`Text.IsLine`); numerals are. Lines that are joined by
their ends are told apart again (`Text.split_intercalate_lines`).
-/

set_option autoImplicit false
set_option relaxedAutoImplicit false

namespace RunningBalance

namespace Text

/-- A separator divides a text into pieces before it and behind it. -/
theorem split_append_cons (separator : Char) (text later : List Char) :
    split separator (text ++ separator :: later) =
      split separator text ++ split separator later := by
  rw [split_eq_splitOn, split_eq_splitOn, split_eq_splitOn]
  exact List.splitOnP_append_cons text later (beq_self_eq_true separator)

theorem split_of_not_mem {separator : Char} {text : List Char} (h : separator ∉ text) :
    split separator text = [text] := by
  rw [split_eq_splitOn]
  exact List.splitOnP_eq_singleton fun c hc ↦ beq_eq_false_iff_ne.2 fun heq ↦ h (heq ▸ hc)

/-- A text that does not hold the end of a line. -/
def IsLine (text : String) : Prop :=
  '\n' ∉ text.toList

instance (text : String) : Decidable (IsLine text) :=
  inferInstanceAs (Decidable ('\n' ∉ text.toList))

theorem isLine_append {text more : String} : IsLine (text ++ more) ↔ IsLine text ∧ IsLine more := by
  simp only [IsLine, String.toList_append, List.mem_append, not_or]

theorem isLine_ofList {text : List Char} : IsLine (String.ofList text) ↔ '\n' ∉ text := by
  rw [IsLine, String.toList_ofList]

/-- Lines with ends between them are told apart by these. -/
theorem split_intercalate_lines {lines : List String} (hlines : ∀ line ∈ lines, IsLine line)
    (hne : lines ≠ []) :
    split '\n' ("\n".intercalate lines).toList = lines.map String.toList := by
  rw [String.toList_intercalate]
  exact split_intercalate (List.forall_mem_map.2 hlines) (by simpa using hne)

end Text

namespace Decimal

theorem newline_not_mem_ofNat (n : ℕ) : '\n' ∉ ofNat n :=
  fun hmem ↦ absurd (isDigit_of_mem_ofNat hmem) (by decide)

theorem newline_not_mem_padded (width n : ℕ) : '\n' ∉ padded width n :=
  fun hmem ↦ absurd (isDigit_of_mem_padded hmem) (by decide)

theorem newline_not_mem_ofInt (n : ℤ) : '\n' ∉ ofInt n := by
  rw [ofInt_eq, List.mem_append, not_or]
  refine ⟨?_, newline_not_mem_ofNat n.natAbs⟩
  split <;> decide

end Decimal

end RunningBalance
