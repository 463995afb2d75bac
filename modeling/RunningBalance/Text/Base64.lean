/-!
# Base64

Bytes in digits of six bits, of which four stand for three bytes. Signs of equality fill up the last
four.
-/

set_option autoImplicit false
set_option relaxedAutoImplicit false

namespace RunningBalance.Text.Base64

def alphabet : List Char :=
  "ABCDEFGHIJKLMNOPQRSTUVWXYZabcdefghijklmnopqrstuvwxyz0123456789+/".toList

theorem length_alphabet : alphabet.length = 64 := by
  decide +kernel

/-- The digit of the six lowest bits. -/
def digit (number : Nat) : Char :=
  alphabet.get ⟨number % 64, length_alphabet ▸ Nat.mod_lt number (by decide)⟩

/-- The four digits of three bytes. -/
def digits (first second third : UInt8) : List Char :=
  let number := 65536 * first.toNat + 256 * second.toNat + third.toNat
  [digit (number / 262144), digit (number / 4096), digit (number / 64), digit number]

def encode : List UInt8 → List Char
  | [] => []
  | [byte] => (digits byte 0 0).take 2 ++ ['=', '=']
  | [first, second] => (digits first second 0).take 3 ++ ['=']
  | first :: second :: third :: rest => digits first second third ++ encode rest

/-- A text in this encoding has no other characters. -/
theorem mem_of_mem_encode {bytes : List UInt8} {c : Char} (h : c ∈ encode bytes) :
    c ∈ '=' :: alphabet := by
  have hdigit (number : Nat) : digit number ∈ alphabet := List.get_mem alphabet _
  have hdigits {first second third : UInt8} (h : c ∈ digits first second third) :
      c ∈ alphabet := by
    simp only [digits, List.mem_cons, List.not_mem_nil, or_false] at h
    rcases h with rfl | rfl | rfl | rfl <;> exact hdigit _
  induction bytes using encode.induct with
  | case1 => cases h
  | case2 byte =>
    rcases List.mem_append.1 h with h | h
    · exact List.mem_cons_of_mem _ (hdigits (List.mem_of_mem_take h))
    · simp_all
  | case3 first second =>
    rcases List.mem_append.1 h with h | h
    · exact List.mem_cons_of_mem _ (hdigits (List.mem_of_mem_take h))
    · simp_all
  | case4 first second third rest ih =>
    rcases List.mem_append.1 h with h | h
    · exact List.mem_cons_of_mem _ (hdigits h)
    · exact ih h

example : encode "Aladdin:open sesame".toUTF8.toList = "QWxhZGRpbjpvcGVuIHNlc2FtZQ==".toList := by
  decide +kernel

end RunningBalance.Text.Base64
