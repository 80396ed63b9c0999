import PagePreview.Pattern.Boundary
import PagePreview.Pattern.Syntax
import PagePreview.Unicode.Age
import PagePreview.Unicode.ScriptExtension

/-!
# Classes of Unicode properties

A name on its own is a binary property, a general category or a script, in this order. A name with
a value asks for a category, a script, a script extension, the age of a character or a class for
text boundaries. Names are compared without regard to case, blanks, hyphens, underscores and a
leading `is`.
-/

namespace PagePreview.Pattern

open Unicode

/-- The form in which names are compared. A leading `is` is no part of a name, except in `isc`. -/
def normalName (name : String) : String :=
  let cs := name.toList
  let led := (cs.take 2).map Ascii.lower = ['i', 's']
  let body := ((if led then cs.drop 2 else cs).filter fun c =>
    c != ' ' && c != '_' && c != '-' && c.toNat < 0x80).map Ascii.lower
  if led ∧ body = ['c'] then "isc" else String.ofList body

/-- The categories that are unions of others, with the two-letter ones that make them up. -/
def categoryUnions : List (List String × List String) := [
  (["c", "other"], ["cc", "cf", "cn", "co"]),
  (["lc", "casedletter"], ["lu", "ll", "lt"]),
  (["l", "letter"], ["lu", "ll", "lt", "lm", "lo"]),
  (["m", "mark", "combiningmark"], ["mn", "mc", "me"]),
  (["n", "number"], ["nd", "nl", "no"]),
  (["p", "punctuation", "punct"], ["pc", "pd", "ps", "pe", "pi", "pf", "po"]),
  (["s", "symbol"], ["sm", "sc", "sk", "so"]),
  (["z", "separator"], ["zs", "zl", "zp"])]

/-- The set of a general category. Surrogates are no characters, so theirs is not known. -/
def categorySet? (name : String) : Option CharSet :=
  if name = "any" then some CharSet.full
  else if name = "ascii" then some [(0, 0x7F)]
  else if name = "assigned" then some (CharSet.ofIntervals (category "cn")).complement
  else
    match categoryUnions.find? fun u => u.1.contains name with
    | some u => some (CharSet.ofIntervals (u.2.flatMap category))
    | none => (named? categories name).map CharSet.ofIntervals

/-- The set of a script. -/
def scriptSet? (name : String) : Option CharSet := (named? scripts name).map CharSet.ofIntervals

/-- The set of characters used with a script. -/
def extensionSet? (name : String) : Option CharSet :=
  ((named? scriptExtensions name).or (named? scripts name)).map CharSet.ofIntervals

/-- The set of a binary property. The abbreviations that it shares with a category are the
category's. -/
def propertySet? (name : String) : Option CharSet :=
  if name = "cf" ∨ name = "sc" ∨ name = "lc" then none
  else (named? properties name).map CharSet.ofIntervals

/-- The characters of a version of Unicode: what it and all versions before it added. -/
def ageSet? (version : String) : Option CharSet :=
  let earlier := additions.takeWhile fun t => !t.1.contains version
  if earlier.length = additions.length then none
  else some (CharSet.ofIntervals
    ((additions.take (earlier.length + 1)).flatMap fun t => readTable t.2))

/-- The set that a query asks for. -/
def PropertyQuery.set? : PropertyQuery → Option CharSet
  | .named name =>
    let name := normalName name
    ((propertySet? name).or (categorySet? name)).or (scriptSet? name)
  | .valued name value =>
    let name := normalName name
    let value := normalName value
    if name = "gc" ∨ name = "generalcategory" then categorySet? value
    else if name = "sc" ∨ name = "script" then scriptSet? value
    else if name = "scx" ∨ name = "scriptextensions" then extensionSet? value
    else if name = "age" then ageSet? value
    else if name = "gcb" ∨ name = "graphemeclusterbreak" then NamedRules.set? graphemeBreaks value
    else if name = "wb" ∨ name = "wordbreak" then NamedRules.set? wordBreaks value
    else if name = "sb" ∨ name = "sentencebreak" then NamedRules.set? sentenceBreaks value
    else none

end PagePreview.Pattern
