import PagePreview.CommandLine.Flag

/-!
# Reading the command line

Arguments are read from left to right. A flag without a value next to it waits for the next
argument that is not a flag. A flag is settled, and its value checked, when the next flag comes or
at the end; an argument that is not understood is reported before an unsettled flag. After `--`
nothing is understood.
-/

namespace PagePreview

/-- An argument by its form. -/
inductive Argument where
  /-- A long name, perhaps with a value. -/
  | long (name : String) (value : Option String)
  /-- A letter, and what stands after it. -/
  | letter (c : Char) (rest : List Char)
  /-- Anything else. -/
  | plain (text : String)
  deriving DecidableEq, Repr

/-- The form of an argument. -/
def Argument.ofText (text : String) : Argument :=
  match text.toList with
  | '-' :: '-' :: rest =>
    let (name, value) := rest.span (· != '=')
    .long (String.ofList name)
      (if value.isEmpty then none else some (String.ofList (value.drop 1)))
  | '-' :: c :: rest => .letter c rest
  | _ => .plain text

/-- Why a command line is not understood. -/
inductive UsageError where
  /-- A flag has no value. -/
  | missingValue (flag : Flag)
  /-- A flag is given more than once. -/
  | repeated (flag : Flag)
  /-- A flag that takes no value has one, perhaps after others. -/
  | unwantedValue (flag : Flag) (value : String) (afterOthers : Bool)
  /-- An argument is not understood; perhaps a flag was meant. -/
  | unexpected (text : String) (meant : Option Flag) (given : List Flag)
  deriving DecidableEq, Repr

namespace UsageError

/-- What is wrong. -/
def reason : UsageError → String
  | .missingValue flag => "a value is required for '" ++ flag.shown ++ "' but none was supplied"
  | .repeated flag => "the argument '" ++ flag.shown ++ "' cannot be used multiple times"
  | .unwantedValue flag value _ =>
    "unexpected value '" ++ value ++ "' for '" ++ flag.shown ++ "' found; no more were expected"
  | .unexpected text _ _ => "unexpected argument '" ++ text ++ "' found"

/-- What may help. -/
def tip? : UsageError → Option String
  | .unexpected _ (some flag) _ =>
    some ("  tip: a similar argument exists: '--" ++ flag.long ++ "'")
  | _ => none

/-- How the program is called. -/
def usage? : UsageError → Option String
  | .missingValue _ => none
  | .repeated _ => some (usage [])
  | .unwantedValue flag _ afterOthers =>
    some (usageOf (flag.shown :: if afterOthers then [optionChoice] else []))
  | .unexpected _ meant given => some (usage (given ++ (meant.toList.filter (!given.contains ·))))

/-- The wording of an error. -/
def message (e : UsageError) : String :=
  String.intercalate "\n\n" (("error: " ++ e.reason) :: e.tip?.toList ++ e.usage?.toList ++
    ["For more information, try '--help'."])

end UsageError

/-- What the command line asks for. -/
structure Options where
  /-- The configuration file. -/
  config : Option String := none
  /-- The address to listen on. -/
  listen : Option String := none
  /-- The rule files. -/
  rules : List String := []
  /-- The root of the templates. -/
  views : Option String := none
  /-- The roots of data. -/
  data : List String := []
  deriving DecidableEq, Repr

namespace Options

/-- The options with the value of one more flag. -/
def add (o : Options) (value : String) : Flag → Options
  | .config => { o with config := some value }
  | .listen => { o with listen := some value }
  | .rules => { o with rules := o.rules ++ [value] }
  | .views => { o with views := some value }
  | .data => { o with data := o.data ++ [value] }
  | .help => o

end Options

/-- What a command line asks the program to do. -/
inductive Command where
  /-- To print the help. -/
  | help
  /-- To serve. -/
  | serve (options : Options)
  deriving DecidableEq, Repr

namespace CommandLine

/-- How far a command line has been read. -/
structure Progress where
  /-- The options so far. -/
  options : Options := {}
  /-- The flags that are settled. -/
  given : List Flag := []
  /-- A flag that is not settled yet, perhaps with its value. -/
  pending : Option (Flag × Option String) := none
  deriving Repr

namespace Progress

/-- Settle the pending flag: what is known then, and what is wrong with the flag. -/
def settle (p : Progress) : Progress × Option UsageError :=
  match p.pending with
  | none => (p, none)
  | some (flag, none) => ({ p with pending := none }, some (.missingValue flag))
  | some (flag, some value) =>
    let again := p.given.contains flag
    if again ∧ !flag.isRepeatable then
      ({ p with pending := none, given := p.given.erase flag }, some (.repeated flag))
    else
      let given := if again then p.given else p.given ++ [flag]
      if value = "" ∧ !flag.allowsEmpty then
        ({ p with pending := none, given }, some (.missingValue flag))
      else (⟨p.options.add value flag, given, none⟩, none)

/-- Settle the pending flag, which has to be right. -/
def settled (p : Progress) : Except UsageError Progress :=
  match p.settle with
  | (p, none) => .ok p
  | (_, some e) => .error e

/-- The flags that are given, whatever is wrong with the pending one. -/
def givenAtLast (p : Progress) : List Flag := p.settle.1.given

/-- Whether a flag waits for its value. -/
def isWaiting (p : Progress) : Bool :=
  match p.pending with
  | some (_, none) => true
  | _ => false

/-- Take a value for the flag that waits for one. -/
def supply (p : Progress) (value : String) : Progress :=
  { p with pending := p.pending.map fun (flag, _) => (flag, some value) }

/-- Take a flag that needs a value and may have it next to it. A flag that has its value is settled
at once. -/
def take (p : Progress) (flag : Flag) (value : Option String) : Except UsageError Progress := do
  let p ← p.settled
  let p := { p with pending := some (flag, value) }
  if value.isSome then p.settled else return p

end Progress

/-- What reading one argument comes to. -/
inductive Outcome where
  /-- Read on. -/
  | more (p : Progress)
  /-- Help is asked for. -/
  | help

/-- Take a flag. -/
def takeFlag (p : Progress) (flag : Flag) (value : Option String) : Except UsageError Outcome :=
  match flag with
  | .help => p.settled.map fun _ => .help
  | flag => (p.take flag value).map .more

/-- The value in the letters after that of a flag. -/
def adjoined? : List Char → Option String
  | [] => none
  | '=' :: value => some (String.ofList value)
  | value => some (String.ofList value)

/-- Read an argument. -/
def readArgument (p : Progress) : Argument → Except UsageError Outcome
  | .long name value =>
    match Flag.ofLong? name, value with
    | some .help, some value => .error (.unwantedValue .help value (!p.given.isEmpty))
    | some flag, value => takeFlag p flag value
    | none, _ => .error (.unexpected ("--" ++ name) (Flag.similar? name) p.givenAtLast)
  | .letter c rest =>
    match Flag.ofLetter? c with
    | some flag => takeFlag p flag (adjoined? rest)
    | none => .error (.unexpected (String.ofList ['-', c]) none [])
  | .plain text =>
    if p.isWaiting then .ok (.more (p.supply text)) else .error (.unexpected text none [])

/-- The end of a command line. -/
def finish (p : Progress) : Except UsageError Command := p.settled.map fun p => .serve p.options

/-- Read the arguments that are left. -/
def readFrom (p : Progress) : List String → Except UsageError Command
  | [] => finish p
  | text :: rest =>
    if text = "--" then
      match rest with
      | [] => finish p
      | next :: _ => .error (.unexpected next none [])
    else
      match readArgument p (.ofText text) with
      | .error e => .error e
      | .ok .help => .ok .help
      | .ok (.more p) => readFrom p rest

end CommandLine

/-- What a command line asks for. -/
def Command.ofArguments (arguments : List String) : Except UsageError Command :=
  CommandLine.readFrom {} arguments

end PagePreview
