import BlockStorage.Text.Numeral

/-!
Percent-encoding.

A byte is written as a percent sign and two hexadecimal digits, and a character as its bytes. Encoding
writes the characters of a class in this way and leaves the others; every character outside ASCII and
every control character is in each class. Decoding gives bytes, because not all bytes make a text.
-/

namespace BlockStorage.Text.Percent

/-- The upper-case hexadecimal digit with a value below sixteen. -/
def hexDigit (n : Nat) : Char := Char.ofNat (if n < 10 then 48 + n else 55 + n)

/-- A byte as a percent sign and two digits. -/
def encodeByte (b : UInt8) : List Char := ['%', hexDigit (b.toNat / 16), hexDigit (b.toNat % 16)]

/-- A character with each of its bytes encoded. -/
def encodeChar (c : Char) : List Char := (String.utf8EncodeChar c).flatMap encodeByte

/-- Whether a character is a control character or outside ASCII. -/
def isUnsafe (c : Char) : Bool := c.toNat < 0x20 || 0x7F ≤ c.toNat

/-- A text with the characters of a class encoded. -/
def encode (isEncoded : Char → Bool) (s : List Char) : List Char :=
  s.flatMap fun c => if isUnsafe c || isEncoded c then encodeChar c else [c]

/-- The bytes of a text, in which a percent sign before two digits stands for one byte. -/
def decode : List Char → List UInt8
  | [] => []
  | '%' :: a :: b :: s =>
    match hexValue? a, hexValue? b with
    | some high, some low => UInt8.ofNat (16 * high + low) :: decode s
    | _, _ => String.utf8EncodeChar '%' ++ decode (a :: b :: s)
  | c :: s => String.utf8EncodeChar c ++ decode s

/-- The bytes of a text as they are. -/
def bytes (s : List Char) : List UInt8 := s.flatMap String.utf8EncodeChar

end BlockStorage.Text.Percent
