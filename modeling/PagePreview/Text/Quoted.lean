import PagePreview.Unicode.Alphanumeric

/-!
# Quoted texts

A quoted text stands between quotes and can be told apart from what surrounds it. A quote, a
backslash and the common control characters are written with a backslash; every other character
that would not be seen by itself is written by its number.
-/

namespace PagePreview.Quoted

/-- The characters that are not seen by themselves: controls, formats, separators and unassigned
characters, and those that join the character before them. -/
def unseen : Unicode.Intervals :=
  ["cc", "cf", "cn", "co", "zl", "zp", "zs"].flatMap Unicode.category ++ Unicode.property "grext"

/-- Characters that are seen although a table says otherwise: the recent ones that do not join
another, and the two sound marks of half width, which take a place of their own. -/
def seenAfterAll : Unicode.Intervals :=
  [(0xFF9E, 0xFF9F)] ++ Unicode.recentSymbols ++ Unicode.recentNumbers ++ Unicode.recentLetters

/-- Whether a character is written as it is. -/
def isPlain (c : Char) : Bool :=
  if c.toNat < 0x7F then 0x20 ≤ c.toNat
  else !unseen.contains c.toNat ||
    (seenAfterAll.contains c.toNat && !Unicode.recentMarks.contains c.toNat)

/-- The number of a character in braces. -/
def numbered (c : Char) : List Char :=
  ['\\', 'u', '\x7b'] ++ Nat.toDigits 16 c.toNat ++ ['\x7d']

/-- The written form of a character. -/
def encodeChar (c : Char) : List Char :=
  if c = '\x22' ∨ c = '\\' then ['\\', c]
  else if c = '\x00' then ['\\', '0']
  else if c = '\t' then ['\\', 't']
  else if c = '\n' then ['\\', 'n']
  else if c = '\r' then ['\\', 'r']
  else if isPlain c then [c]
  else numbered c

/-- A text between quotes. -/
def quote (s : String) : String :=
  String.ofList ('\x22' :: s.toList.flatMap encodeChar ++ ['\x22'])

end PagePreview.Quoted
