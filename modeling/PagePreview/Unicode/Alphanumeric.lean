import PagePreview.Unicode.Category
import PagePreview.Unicode.Property
import PagePreview.Unicode.Recent

/-!
# Letters, numbers and word characters

Unions of the tables that names and patterns need most. In patterns the classes are those of
version 16; in names the letters and numbers of version 17 count too.
-/

namespace PagePreview.Unicode

/-- The table of a category. -/
def category (name : String) : Intervals := (named? categories name).getD []

/-- The table of a binary property. -/
def property (name : String) : Intervals := (named? properties name).getD []

/-- The property Alphabetic. -/
def alphabetic : Intervals := property "alpha"

/-- Decimal digits of every script. -/
def decimalDigits : Intervals := category "nd"

/-- All numbers. -/
def numbers : Intervals := decimalDigits ++ category "nl" ++ category "no"

/-- Combining marks. -/
def marks : Intervals := category "mn" ++ category "mc" ++ category "me"

/-- Word characters: letters, marks, digits, connectors and the two joiners. -/
def wordCharacters : Intervals :=
  alphabetic ++ marks ++ decimalDigits ++ category "pc" ++ [(0x200C, 0x200D)]

/-- White space. -/
def blanks : Intervals := property "space"

/-- A letter of a name, in the sense of the property Alphabetic. -/
def isAlphabetic (c : Char) : Bool :=
  alphabetic.contains c.toNat || recentLetters.contains c.toNat

/-- A letter or a number of a name; of the ASCII characters these are the letters and digits. -/
def isAlphanumeric (c : Char) : Bool :=
  if c.toNat < 0x80 then Ascii.isAlphanumeric c
  else isAlphabetic c || numbers.contains c.toNat || recentNumbers.contains c.toNat

/-- A word character. -/
def isWord (c : Char) : Bool :=
  if c.toNat < 0x80 then Ascii.isAlphanumeric c || c == '_'
  else wordCharacters.contains c.toNat

end PagePreview.Unicode
