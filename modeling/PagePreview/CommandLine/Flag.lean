import PagePreview.Text.Similarity

/-!
# The flags of the command line

Every flag has a long name, most have a letter too, and all but the one for help take a value.
-/

namespace PagePreview

/-- A flag. -/
inductive Flag where
  /-- The configuration file. -/
  | config
  /-- The address to listen on. -/
  | listen
  /-- A rule file. -/
  | rules
  /-- The root of the templates. -/
  | views
  /-- A root of data. -/
  | data
  /-- A request for help. -/
  | help
  deriving DecidableEq, Repr

namespace Flag

/-- Every flag, in the order in which they are shown. -/
def all : List Flag := [.config, .listen, .rules, .views, .data, .help]

/-- The long name of a flag. -/
def long : Flag → String
  | .config => "config"
  | .listen => "listen"
  | .rules => "rules"
  | .views => "views"
  | .data => "data"
  | .help => "help"

/-- The letter of a flag. -/
def letter? : Flag → Option Char
  | .config => some 'c'
  | .listen => some 'l'
  | .rules => some 'r'
  | .views => none
  | .data => some 'd'
  | .help => some 'h'

/-- What the value of a flag is called. -/
def valueName? : Flag → Option String
  | .config => some "CONFIG"
  | .listen => some "LISTEN"
  | .rules => some "RULES"
  | .views => some "VIEWS"
  | .data => some "DATA"
  | .help => none

/-- What a flag is for. -/
def summary : Flag → String
  | .config => "TOML configuration file"
  | .listen => "Address to listen on, e.g. 127.0.0.1:8080"
  | .rules => "Rule file; repeat for several"
  | .views => "Template root"
  | .data => "Fixture data root; repeat for several"
  | .help => "Print help"

/-- Whether a flag may be given more than once. -/
def isRepeatable : Flag → Bool
  | .rules | .data => true
  | _ => false

/-- Whether the value of a flag may be empty; a path may not. -/
def allowsEmpty : Flag → Bool
  | .listen => true
  | _ => false

/-- The flag with a long name. -/
def ofLong? (name : String) : Option Flag := all.find? (·.long == name)

/-- The flag with a letter. -/
def ofLetter? (c : Char) : Option Flag := all.find? (·.letter? == some c)

/-- The flag whose long name is most like a given one. -/
def similar? (name : String) : Option Flag :=
  (Similarity.closest? name (all.map long)).bind ofLong?

/-- A flag as it is given, with the place of its value. -/
def shown (f : Flag) : String :=
  match f.valueName? with
  | some name => "--" ++ f.long ++ " <" ++ name ++ ">"
  | none => "--" ++ f.long

end Flag

/-! ## Help -/

/-- The name of the program. -/
def programName : String := "preview-server"

/-- What the program is. -/
def programSummary : String :=
  "Local development server with rewrite rules, template preview and fixtures"

/-- How the program is called, with these parts. -/
def usageOf (parts : List String) : String :=
  "Usage: " ++ String.intercalate " " (programName :: parts)

/-- How the program is called, with these flags or with any. -/
def usage (flags : List Flag) : String :=
  usageOf (if flags.isEmpty then ["[OPTIONS]"] else flags.map Flag.shown)

/-- One of the flags that take a value. -/
def optionChoice : String :=
  "<" ++ String.intercalate "|" ((Flag.all.filter (·.valueName?.isSome)).map Flag.shown) ++ ">"

namespace Flag

/-- The names of a flag in the list of flags. -/
def entryNames (f : Flag) : String :=
  (match f.letter? with
    | some c => "  -" ++ String.singleton c ++ ", "
    | none => "      ") ++ f.shown

/-- The greatest width of the names in the list of flags. -/
def entryWidth : Nat := (all.map fun f => f.entryNames.length).foldl max 0

/-- A flag in the list of flags. -/
def entry (f : Flag) : String :=
  let names := f.entryNames
  names ++ String.ofList (List.replicate (entryWidth - names.length) ' ') ++ "  " ++ f.summary

end Flag

/-- The help on the program. -/
def helpText : String :=
  String.intercalate "\n" ([programSummary, "", usage [], "", "Options:"] ++
    Flag.all.map Flag.entry) ++ "\n"

end PagePreview
