/-!
# Blank characters

The characters with the Unicode property `White_Space`, and a text without the blanks at its ends.
-/

set_option autoImplicit false
set_option relaxedAutoImplicit false

namespace RunningBalance.Text

/-- First and last code point of each run of blank characters, in ascending order. -/
def blankRuns : List (Nat × Nat) :=
  [(0x9, 0xD), (0x20, 0x20), (0x85, 0x85), (0xA0, 0xA0), (0x1680, 0x1680), (0x2000, 0x200A),
    (0x2028, 0x2029), (0x202F, 0x202F), (0x205F, 0x205F), (0x3000, 0x3000)]

/-- Whether a code point lies in one of the given runs. -/
def inRuns (runs : List (Nat × Nat)) (code : Nat) : Bool :=
  runs.any fun run ↦ decide (run.1 ≤ code) && decide (code ≤ run.2)

/-- A code point between the ends of one of the runs lies in them. -/
theorem inRuns_of_mem {runs : List (Nat × Nat)} {first last code : Nat}
    (mem : (first, last) ∈ runs) (le : first ≤ code) (le' : code ≤ last) : inRuns runs code := by
  simp only [inRuns, List.any_eq_true]
  exact ⟨(first, last), mem, by simp [le, le']⟩

def isBlank (c : Char) : Bool :=
  inRuns blankRuns c.toNat

/-- The text from its first character that is not blank. -/
def trimStart (text : List Char) : List Char :=
  text.dropWhile isBlank

/-- The text up to its last character that does not satisfy `p`. -/
def dropTrailing (p : Char → Bool) (text : List Char) : List Char :=
  (text.reverse.dropWhile p).reverse

/-- The text without the blanks at both ends. -/
def trim (text : List Char) : List Char :=
  dropTrailing isBlank (trimStart text)

/-- The text after a given beginning, if it begins so. -/
def after? : List Char → List Char → Option (List Char)
  | [], text => some text
  | _ :: _, [] => none
  | c :: beginning, d :: text => if c = d then after? beginning text else none

end RunningBalance.Text
