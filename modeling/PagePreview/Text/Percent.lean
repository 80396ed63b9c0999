import PagePreview.Text.Ascii
import PagePreview.Text.Utf8

/-!
# Percent-encoding

A percent sign and two hexadecimal digits of either case stand for one byte. Decoding is done once,
from left to right: a percent sign without two digits after it stands for itself, and what a
decoded byte spells is not read again.
-/

namespace PagePreview.Percent

/-- The bytes of an encoded byte sequence. -/
def decodeBytes : Bytes → Bytes
  | [] => []
  | b :: h :: l :: rest =>
    if b = 0x25 then
      match Ascii.hexValue? (Char.ofNat h.toNat), Ascii.hexValue? (Char.ofNat l.toNat) with
      | some high, some low => UInt8.ofNat (high * 16 + low) :: decodeBytes rest
      | _, _ => b :: decodeBytes (h :: l :: rest)
    else b :: decodeBytes (h :: l :: rest)
  | b :: rest => b :: decodeBytes rest

/-- The text that an encoded text stands for; bytes that are no text are replaced. -/
def decodeText (text : String) : String := Utf8.decodeLossy (decodeBytes (Utf8.encode text))

/-- The escape of one byte, with capital digits. -/
def escapeByte (b : UInt8) : List Char :=
  ['%', Ascii.upperHexDigit (b.toNat / 16), Ascii.upperHexDigit (b.toNat % 16)]

/-- Write a character as it is, or as the escapes of its bytes if the test asks for it. A character
outside ASCII is always escaped. -/
def encodeChar (escaped : Char → Bool) (c : Char) : List Char :=
  if c.toNat < 0x80 ∧ escaped c = false then [c]
  else (String.utf8EncodeChar c).flatMap escapeByte

/-- Escape the characters that the test selects and all outside ASCII. -/
def encode (escaped : Char → Bool) (cs : List Char) : List Char :=
  cs.flatMap (encodeChar escaped)

end PagePreview.Percent
