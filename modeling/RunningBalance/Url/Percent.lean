import RunningBalance.Text.Hex

/-!
# Percent encoding

A part of a URL keeps the characters that can stand in it and writes each byte of the others as a
percent sign and two hexadecimal digits. A text that needs no encoding stays as it is
(`encode_of_all`).
-/

set_option autoImplicit false
set_option relaxedAutoImplicit false

namespace RunningBalance.Url.Percent

/-! ### Writing -/

def encodeByte (byte : UInt8) : List Char :=
  '%' :: (Text.hexDigits 2 byte.toNat).map Char.toUpper

/-- The bytes of a character, in UTF-8. -/
def encodeChar (c : Char) : List Char :=
  (String.utf8EncodeChar c).flatMap encodeByte

/-- A text in a part of a URL that keeps some characters. -/
def encode (isKept : Char → Bool) (text : List Char) : List Char :=
  text.flatMap fun c ↦ if isKept c then [c] else encodeChar c

theorem encode_of_all {isKept : Char → Bool} {text : List Char} (h : text.all isKept) :
    encode isKept text = text := by
  induction text with
  | nil => rfl
  | cons c rest ih =>
    obtain ⟨kept, later⟩ := Bool.and_eq_true_iff.1 h
    simpa [encode, kept] using ih later

/-! ### Characters that are kept -/

/-- The characters of ASCII with a sign of their own. -/
def isSign (c : Char) : Bool :=
  0x20 < c.toNat && c.toNat < 0x7F

def inFragment (c : Char) : Bool :=
  isSign c && !(['"', '<', '>', '\x60'].contains c)

def inPath (c : Char) : Bool :=
  inFragment c && !(['#', '?', '\x7b', '\x7d'].contains c)

def inQuery (c : Char) : Bool :=
  isSign c && !(['"', '#', '<', '>', '\''].contains c)

/-- Names and passwords keep no character that ends them. -/
def inCredentials (c : Char) : Bool :=
  inPath c && !(['/', ':', ';', '=', '@', '[', '\\', ']', '^', '|'].contains c)

/-! ### Reading -/

/-- The bytes of a text. A percent sign and two hexadecimal digits stand for a byte, all other
characters for themselves. -/
def bytes : List Char → List UInt8
  | '%' :: high :: low :: rest =>
    match Text.hexDigit? high, Text.hexDigit? low with
    | some high, some low => UInt8.ofNat (16 * high + low) :: bytes rest
    | _, _ => String.utf8EncodeChar '%' ++ bytes (high :: low :: rest)
  | c :: rest => String.utf8EncodeChar c ++ bytes rest
  | [] => []

/-- The text without encoding. There is none if its bytes are not those of a text. -/
def decode? (text : List Char) : Option String :=
  String.fromUTF8? ⟨(bytes text).toArray⟩

end RunningBalance.Url.Percent
