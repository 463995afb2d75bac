import RunningBalance.Url.Fault
import RunningBalance.Url.Percent
import RunningBalance.Url.Pieces

/-!
# Hosts

A host is named, or it has an address: of four bytes, or of sixteen in brackets. A name whose last
label is a number is an address of four bytes: up to four numbers, of which each is a byte but the
last, which fills all bytes that are left. What a name is in ASCII is a question of the tables of
Unicode, and is asked of a function; `plainName?` answers it for names that are in ASCII already.
-/

set_option autoImplicit false
set_option relaxedAutoImplicit false

namespace RunningBalance.Url

namespace Host

/-- The number of addresses of so many bytes. -/
def addressCount (width : Nat) : Nat :=
  Nat.pow 256 width

end Host

inductive Host
  | named (name : String)
  | numbered (address : Fin (Host.addressCount 4))
  | bracketed (address : Pieces)
  deriving DecidableEq, Repr

namespace Host

/-- The bytes of an address, with points between them. -/
def writeAddress (number : Nat) : List Char :=
  ['.'].intercalate
    ([3, 2, 1, 0].map fun place ↦ Decimal.ofNat (number / addressCount place % 256))

def write : Host → String
  | .named name => name
  | .numbered address => String.ofList (writeAddress address)
  | .bracketed address => String.ofList ('[' :: address.write ++ [']'])

/-! ### Reading -/

/-- A number in eight digits. -/
def octal? (digits : List Char) : Option Nat :=
  if digits.all fun c ↦ c.isDigit && c < '8' then some (Nat.ofDigitChars 8 digits 0) else none

/-- A number of an address: with sixteen digits after `0x`, with eight after another `0`, else with
ten. -/
def number? : List Char → Option Nat
  | '0' :: 'x' :: digits => Text.hexNumber? 0 digits
  | '0' :: digit :: digits => octal? (digit :: digits)
  | digits => Decimal.natural? digits

/-- Labels without an empty last one. -/
def dropRoot (labels : List (List Char)) : List (List Char) :=
  if labels.getLast? = some [] then labels.dropLast else labels

def endsInNumber (labels : List (List Char)) : Bool :=
  (dropRoot labels).getLast?.any fun label ↦
    (Decimal.natural? label).isSome || (number? label).isSome

/-- The address of so many bytes that numbers denote. -/
def addressOf? : Nat → List Nat → Option Nat
  | 0, _ => none
  | _, [] => none
  | width, [last] => if last < addressCount width then some last else none
  | width + 1, byte :: numbers =>
    if byte < 256 then (addressOf? width numbers).map (byte * addressCount width + ·) else none

/-- The host that labels denote. -/
def ofLabels (labels : List (List Char)) : Except Fault Host :=
  if endsInNumber labels then
    match ((dropRoot labels).mapM number?).bind (addressOf? 4) with
    | some number =>
      if h : number < addressCount 4 then .ok (.numbered ⟨number, h⟩) else .error .address
    | none => .error .address
  else .ok (.named (String.ofList (['.'].intercalate labels)))

/-- Whether a name may have the character. -/
def inName (c : Char) : Bool :=
  Percent.isSign c &&
    !(['%', '#', '/', ':', '<', '>', '?', '@', '[', '\\', ']', '^', '|'].contains c)

/-- A name of ASCII letters and signs, without regard to case. Names with a label that stands for
other characters are not known. -/
def plainName? (name : String) : Option String :=
  let lower := name.toList.map Char.toLower
  let isPlain := lower.all inName &&
    (Text.split '.' lower).all fun label ↦ label.take 4 ≠ ['x', 'n', '-', '-']
  if isPlain then some (String.ofList lower) else none

/-- The host that a text denotes, where names in ASCII are given by a function. -/
def read (asciiName? : String → Option String) (text : List Char) : Except Fault Host :=
  if text.isEmpty then .error .noHost
  else if text.head? = some '[' then
    if text.getLast? = some ']' then
      (Pieces.read? text.tail.dropLast).elim (.error .bracketed) (.ok ∘ .bracketed)
    else .error .bracketed
  else
    match (Percent.decode? text).bind asciiName? with
    | some name => if name = "" then .error .noHost else ofLabels (Text.split '.' name.toList)
    | none => .error .name

end Host

end RunningBalance.Url
