import PagePreview.Pattern.CharSet
import PagePreview.Unicode.Alphanumeric
import PagePreview.Unicode.Script

/-!
# Classes for text boundaries

The classes of characters that decide where a reader sees a character, a word or a sentence end.
They are given by rules over the other properties. Where two classes of one kind could both hold a
character, the rule of one of them leaves it out.
-/

namespace PagePreview.Pattern

/-- A set of characters as a rule over tables. -/
inductive SetRule where
  /-- The points of a table. -/
  | points (table : String)
  /-- Some intervals. -/
  | intervals (s : Unicode.Intervals)
  /-- The characters of a category. -/
  | category (name : String)
  /-- The characters with a binary property. -/
  | property (name : String)
  /-- The characters of a script. -/
  | script (name : String)
  /-- The characters in both sets. -/
  | both (a b : SetRule)
  /-- The characters in any of several sets. -/
  | oneOf (rules : List SetRule)
  /-- The characters in the first set that are in none of the others. -/
  | without (rule : SetRule) (removed : List SetRule)

namespace SetRule

mutual

/-- The set that a rule describes. -/
def set : SetRule → CharSet
  | .points table => CharSet.ofIntervals (Unicode.readTable table)
  | .intervals s => CharSet.ofIntervals s
  | .category name => CharSet.ofIntervals (Unicode.category name)
  | .property name => CharSet.ofIntervals (Unicode.property name)
  | .script name => CharSet.ofIntervals ((Unicode.named? Unicode.scripts name).getD [])
  | .both a b => a.set.inter b.set
  | .oneOf rules => unionOf rules
  | .without rule removed => rule.set.diff (unionOf removed)

/-- The union of the sets that several rules describe. -/
def unionOf : List SetRule → CharSet
  | [] => []
  | r :: rest => r.set.union (unionOf rest)

end

end SetRule

open SetRule

/-- Classes with the names they go by, in lower case and without blanks, hyphens and underscores. -/
abbrev NamedRules := List (List String × SetRule)

/-- The set of the class with a given name. -/
def NamedRules.set? (rules : NamedRules) (name : String) : Option CharSet :=
  (rules.find? fun r => r.1.contains name).map fun r => r.2.set

/-! ## Characters as readers see them -/

/-- Marks and modifiers that extend the character before them. -/
def extending : SetRule := oneOf [property "grext", property "emod"]

/-- Characters that belong to the one after them. -/
def prepended : SetRule :=
  oneOf [property "pcm", points "D4E 111C2-111C3 113D1 1193F 11941 11A3A 11A84-11A89 11D46 11F02"]

/-- The syllables of Hangul without a final consonant. -/
def openSyllables : SetRule :=
  intervals ((List.range 399).map fun i => (0xAC00 + 28 * i, 0xAC00 + 28 * i))

/-- The classes for boundaries between characters. -/
def graphemeBreaks : NamedRules := [
  (["cr"], points "D"),
  (["lf"], points "A"),
  (["control", "cn"],
    without (oneOf [category "cc", category "zl", category "zp", category "cf",
        both (category "cn") (property "di")])
      [points "A D 200C-200D", prepended, extending]),
  (["extend", "ex"], extending),
  (["prepend", "pp"], prepended),
  (["spacingmark", "sm"],
    oneOf [points "E33 EB3",
      without (category "mc") [extending,
        points "102B-102C 1038 1062-1064 1067-106D 1083 1087-108C 108F 109A-109C 1A61 1A63 1A64
          AA7B AA7D 11720-11721"]]),
  (["regionalindicator", "ri"], property "ri"),
  (["l"], points "1100-115F A960-A97C"),
  (["v"], points "1160-11A7 D7B0-D7C6 16D63 16D67-16D6A"),
  (["t"], points "11A8-11FF D7CB-D7FB"),
  (["lv"], openSyllables),
  (["lvt"], without (points "AC00-D7A3") [openSyllables]),
  (["zwj"], points "200D")]

/-! ## Words -/

/-- Marks and modifiers that extend a word. -/
def wordExtending : SetRule := oneOf [extending, category "mc"]

/-- Digits, and signs that stand before or between digits. -/
def numeric : SetRule :=
  oneOf [category "nd", points "66B-66C 600-605 6DD 890-891 8E2 110BD 110CD"]

/-- The letters of Katakana and signs used with them. -/
def katakana : SetRule := oneOf [script "kana", points "3031-3035 309B-309C 30A0 30FC FF70"]

/-- The letters of Hebrew. -/
def hebrewLetters : SetRule := both (script "hebr") (category "lo")

/-- The scripts whose words are not told apart by blanks or by single letters. -/
def unspacedScripts : List SetRule :=
  ["thai", "laoo", "mymr", "khmr", "tale", "talu", "lana", "tavt", "ahom", "hira"].map script

/-- The classes for boundaries between words. -/
def wordBreaks : NamedRules := [
  (["aletter", "le"],
    oneOf [
      without (property "alpha")
        ([property "ideo", katakana, wordExtending, hebrewLetters] ++ unspacedScripts),
      points "2C2-2C5 2D2-2D7 2DE-2DF 2E5-2EB 2ED 2EF-2FF 55A-55C 55E 58A 5F3 70F A708-A716
        A720-A721 A789-A78A AB5B"]),
  (["cr"], points "D"),
  (["doublequote", "dq"], points "22"),
  (["extend"], wordExtending),
  (["extendnumlet", "ex"], oneOf [category "pc", points "202F"]),
  (["format", "fo"],
    without (category "cf") [points "200B-200D", wordExtending, prepended]),
  (["hebrewletter", "hl"], hebrewLetters),
  (["katakana", "ka"], katakana),
  (["lf"], points "A"),
  (["midletter", "ml"], points "3A B7 387 55F 5F4 2027 FE13 FE55 FF1A"),
  (["midnum", "mn"],
    points "2C 3B 37E 589 60C-60D 66C 7F8 2044 FE10 FE14 FE50 FE54 FF0C FF1B"),
  (["midnumlet", "mb"], points "2E 2018-2019 2024 FE52 FF07 FF0E"),
  (["newline", "nl"], points "B-C 85 2028-2029"),
  (["numeric", "nu"], without numeric [points "66C"]),
  (["regionalindicator", "ri"], property "ri"),
  (["singlequote", "sq"], points "27"),
  (["wsegspace"], points "20 1680 2000-2006 2008-200A 205F 3000"),
  (["zwj"], points "200D")]

/-! ## Sentences -/

/-- Marks that extend a part of a sentence. -/
def sentenceExtending : SetRule := oneOf [property "grext", category "mc", points "200D"]

/-- Small letters; those of Georgian do not tell where a sentence ends. -/
def lowerInSentence : SetRule :=
  without (property "lower") [property "grext", points "10D0-10FA 10FD-10FF"]

/-- Capital letters, again without those of Georgian. -/
def upperInSentence : SetRule :=
  without (oneOf [property "upper", category "lt"]) [points "1C90-1CBA 1CBD-1CBF"]

/-- Full stops that may also end an abbreviation. -/
def ambiguousStops : SetRule := points "2E 2024 FE52 FF0E"

/-- Marks that end a sentence. -/
def stops : SetRule := without (property "sterm") [ambiguousStops]

/-- The classes for boundaries between sentences. -/
def sentenceBreaks : NamedRules := [
  (["aterm", "at"], ambiguousStops),
  (["close", "cl"],
    without (oneOf [category "ps", category "pe", category "pi", category "pf",
        points "22 27 275B-2760 2E00-2E0D 1F676-1F678"])
      [ambiguousStops, stops]),
  (["cr"], points "D"),
  (["extend", "ex"], sentenceExtending),
  (["format", "fo"],
    without (category "cf") [points "200C-200D", numeric, sentenceExtending]),
  (["lf"], points "A"),
  (["lower", "lo"], lowerInSentence),
  (["numeric", "nu"], numeric),
  (["oletter", "le"],
    without (oneOf [property "alpha", points "5F3"])
      [lowerInSentence, upperInSentence, sentenceExtending]),
  (["scontinue", "sc"],
    points "2C-2D 3A-3B 37E 55D 60C-60D 7F8 1802 1808 2013-2014 3001 FE10-FE11 FE13-FE14
      FE31-FE32 FE50-FE51 FE54-FE55 FE58 FE63 FF0C-FF0D FF1A-FF1B FF64"),
  (["sep", "se"], points "85 2028-2029"),
  (["sp"], without (property "space") [points "A D 85 2028-2029"]),
  (["sterm", "st"], stops),
  (["upper", "up"], upperInSentence)]

end PagePreview.Pattern
