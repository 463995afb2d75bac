import RunningBalance.Decimal
import RunningBalance.Text.Hex
import RunningBalance.Text.Split

/-!
# Addresses in pieces

An address of sixteen bytes is spelled in eight pieces of two bytes each, in hexadecimal digits and
with colons between them. Two colons stand for pieces of zero that are left out, at one place only.
Four bytes with points between them may stand for the last two pieces. The longest run of zeros is
left out of what is written.
-/

set_option autoImplicit false
set_option relaxedAutoImplicit false

namespace RunningBalance.Url

/-- The eight pieces of an address. -/
abbrev Pieces :=
  Vector UInt16 8

namespace Pieces

/-! ### Reading -/

/-- A piece in one to four hexadecimal digits. -/
def piece? (digits : List Char) : Option UInt16 :=
  if digits.isEmpty || 4 < digits.length then none
  else (Text.hexNumber? 0 digits).map UInt16.ofNat

/-- A byte in decimal digits, without needless zeros. -/
def byte? (digits : List Char) : Option Nat :=
  (Decimal.natural? digits).filter fun byte ↦ byte < 256 && Decimal.ofNat byte = digits

/-- The two pieces of four bytes with points between them. -/
def points? (text : List Char) : Option (List UInt16) :=
  match (Text.split '.' text).mapM byte? with
  | some [first, second, third, fourth] =>
    some [UInt16.ofNat (256 * first + second), UInt16.ofNat (256 * third + fourth)]
  | _ => none

/-- Pieces with colons between them, of which the last two may be spelled with points. -/
def groups? (withPoints : Bool) (text : List Char) : Option (List UInt16) :=
  if text.isEmpty then some []
  else do
    let groups := Text.split ':' text
    let last := groups.getLast?.getD []
    let pieces ← groups.dropLast.mapM piece?
    let ending ←
      if withPoints && last.contains '.' then points? last
      else (piece? last).map fun piece ↦ [piece]
    pure (pieces ++ ending)

/-- The text before and after the first two colons in a row. -/
def splitGap? : List Char → Option (List Char × List Char)
  | ':' :: ':' :: rest => some ([], rest)
  | c :: rest => (splitGap? rest).map fun (before, after) ↦ (c :: before, after)
  | [] => none

def ofList? (pieces : List UInt16) : Option Pieces :=
  if h : pieces.length = 8 then some ⟨pieces.toArray, h⟩ else none

def read? (text : List Char) : Option Pieces :=
  match splitGap? text with
  | none => (groups? true text).bind ofList?
  | some (before, after) => do
    let before ← groups? false before
    let after ← groups? true after
    let missing := 8 - (before.length + after.length)
    if missing = 0 then none else ofList? (before ++ List.replicate missing 0 ++ after)

/-! ### Writing -/

/-- The number of zeros in front. -/
def zeros (pieces : List UInt16) : Nat :=
  (pieces.takeWhile (· = 0)).length

/-- Where the first of the longest runs of zeros starts, and its length. -/
def gap (pieces : List UInt16) : Nat × Nat :=
  let lengths := (List.range 8).map fun start ↦ zeros (pieces.drop start)
  let longest := lengths.foldl max 0
  (lengths.idxOf longest, longest)

def writeGroups (pieces : List UInt16) : List Char :=
  [':'].intercalate (pieces.map fun piece ↦ Nat.toDigits 16 piece.toNat)

/-- A single zero is not left out. -/
def write (address : Pieces) : List Char :=
  let pieces := address.toList
  let (start, length) := gap pieces
  if length < 2 then writeGroups pieces
  else writeGroups (pieces.take start) ++ [':', ':'] ++ writeGroups (pieces.drop (start + length))

example : (read? "2001:DB8:0:0:1::192.0.2.33".toList).map write =
    some "2001:db8::1:0:c000:221".toList := by
  decide +kernel

end Pieces

end RunningBalance.Url
