import PagePreview.Text.Ascii
import PagePreview.Text.Utf8

/-!
# Random identifiers

An identifier of 128 bits of which all but six are random; those six tell that the rest is. It is
written in five groups of hexadecimal digits.
-/

namespace PagePreview.Uuid

/-- The bytes of an identifier from random ones: the fixed bits stand in the bytes at two places. -/
def mark (bytes : Bytes) : Bytes :=
  bytes.mapIdx fun place b =>
    if place = 6 then 0x40 ||| (b &&& 0x0F) else if place = 8 then 0x80 ||| (b &&& 0x3F) else b

/-- The hexadecimal digits of bytes. -/
def digits (bytes : Bytes) : List Char :=
  bytes.flatMap fun b =>
    [Ascii.lowerHexDigit (b.toNat / 16), Ascii.lowerHexDigit (b.toNat % 16)]

/-- The text of an identifier from sixteen random bytes. -/
def text (random : Bytes) : String :=
  let ds := digits (mark random)
  String.intercalate "-" ([(0, 8), (8, 4), (12, 4), (16, 4), (20, 12)].map fun (from_, count) =>
    String.ofList ((ds.drop from_).take count))

end PagePreview.Uuid
