import PagePreview.Config.Basic
import PagePreview.Observability.LogField
import PagePreview.Text.Ascii
import PagePreview.Text.Blank
import PagePreview.Unicode.Alphanumeric

/-!
# Which messages are logged

A filter is a list of directives separated by commas. A directive gives a level to the messages of a
target, of a span, or of spans with certain fields; a level alone is for all messages. Of two
directives for the same messages the later one counts.
-/

namespace PagePreview

/-- The least severe messages that are logged. -/
inductive LogLevel where
  /-- No messages. -/
  | off
  /-- Errors. -/
  | error
  /-- Warnings, too. -/
  | warn
  /-- Information, too. -/
  | info
  /-- Messages for debugging, too. -/
  | debug
  /-- All messages. -/
  | trace
  deriving DecidableEq, Repr

namespace LogLevel

/-- The levels in order; each is also known by its place. -/
def all : List LogLevel := [.off, .error, .warn, .info, .debug, .trace]

/-- The name of a level. -/
def name : LogLevel → String
  | .off => "off"
  | .error => "error"
  | .warn => "warn"
  | .info => "info"
  | .debug => "debug"
  | .trace => "trace"

/-- The digits of a number, which a plus sign may precede. -/
def number? (text : String) : Option Nat :=
  let digits := match text.toList with
    | '+' :: rest => rest
    | cs => cs
  if digits.isEmpty ∨ digits.any (!Ascii.isDigit ·) then none else some (Ascii.valueOf 10 digits)

/-- The level that a text names, by its name in any case or by its number. -/
def ofText? (text : String) : Option LogLevel :=
  match (number? text).bind fun n => all[n]? with
  | some level => some level
  | none => all.find? fun level => Ascii.sameIgnoringCase text level.name

end LogLevel

/-- Why a directive is not well formed. -/
inductive LogFault where
  /-- Its parts are not in order. -/
  | form
  /-- Its level is none. -/
  | level
  /-- The pattern of a field cannot be matched. -/
  | field (fault : Pattern.AutomatonFault)
  deriving DecidableEq, Repr

/-- The wording of a fault. -/
def LogFault.message : LogFault → String
  | .form => "invalid filter directive"
  | .level => "error parsing level filter: expected one of \"off\", \"error\", \"warn\", " ++
    "\"info\", \"debug\", \"trace\", or a number 0-5"
  | .field fault => "invalid field filter: " ++ fault.message

/-- A directive. -/
structure LogDirective where
  /-- The target. -/
  target : Option String
  /-- The span. -/
  span : Option String
  /-- The fields. -/
  fields : List LogField
  /-- The level. -/
  level : LogLevel
  deriving DecidableEq, Repr

namespace LogDirective

/-- What has been read of a directive, and what is being read; the numbers are the places where
the parts begin. -/
inductive State where
  /-- Nothing. -/
  | start
  /-- A level or a target. -/
  | levelOrTarget (from_ : Nat)
  /-- The name of a span. -/
  | span (from_ : Nat)
  /-- A field. -/
  | field (from_ : Nat)
  /-- The end of the fields. -/
  | fields
  /-- The end of a target. -/
  | target
  /-- A level. -/
  | level (from_ : Nat)
  deriving DecidableEq, Repr

/-- A part of a text. -/
def slice (cs : List Char) (start stop : Nat) : String :=
  String.ofList ((cs.drop start).take (stop - start))

/-- Read the character at a place. -/
def step (cs : List Char) (d : LogDirective) (place : Nat) (c : Char) :
    State → Except LogFault (LogDirective × State)
  | .start =>
    if c = '[' then .ok (d, .span (place + 1))
    else if c = '-' ∨ c = ':' ∨ c = '_' ∨ Unicode.isAlphanumeric c then
      .ok (d, .levelOrTarget place)
    else .error .form
  | .levelOrTarget from_ =>
    if c = '=' then .ok ({ d with target := some (slice cs from_ place) }, .level (place + 1))
    else if c = '[' then .ok ({ d with target := some (slice cs from_ place) }, .span (place + 1))
    else .ok (d, .levelOrTarget from_)
  | .span from_ =>
    let name := slice cs from_ place
    if c = ']' then .ok ({ d with span := some name }, .target)
    else if c = '\x7b' then
      .ok ({ d with span := if name = "" then none else some name }, .field (place + 1))
    else .ok (d, .span from_)
  | .field from_ =>
    if c = '\x7d' then
      let text := slice cs from_ place
      if text = "" then .error .form
      else match LogField.ofText text with
        | .ok field => .ok ({ d with fields := d.fields ++ [field] }, .fields)
        | .error e => .error (.field e)
    else .ok (d, .field from_)
  | .fields => if c = ']' then .ok (d, .target) else .error .form
  | .target => if c = '=' then .ok (d, .level (place + 1)) else .error .form
  | .level from_ => .ok (d, .level from_)

/-- Read characters from a place on. -/
def walk (cs : List Char) :
    Nat → List Char → LogDirective → State → Except LogFault (LogDirective × State)
  | _, [], d, state => .ok (d, state)
  | place, c :: rest, d, state => do
    let (d, state) ← step cs d place c state
    walk cs (place + 1) rest d state

/-- The level at the end of a directive; without one, all messages are logged. -/
def finish (cs : List Char) (d : LogDirective) : State → Except LogFault LogDirective
  | .levelOrTarget from_ =>
    let text := slice cs from_ cs.length
    match LogLevel.ofText? text with
    | some level => .ok { d with target := none, level }
    | none => .ok { d with target := some text }
  | .level from_ =>
    let text := slice cs from_ cs.length
    if text = "" then .ok d
    else match LogLevel.ofText? text with
      | some level => .ok { d with level }
      | none => .error .level
  | .target => .ok d
  | _ => .error .form

/-- Read a directive. Blanks around it are passed over, but the parts are taken at the same places
of the text with its blanks. -/
def parse (text : String) : Except LogFault LogDirective := do
  let cs := text.toList
  let inner := ((cs.dropWhile Text.isBlank).reverse.dropWhile Text.isBlank).reverse
  let (d, state) ← walk cs 0 inner ⟨none, none, [], .trace⟩ .start
  finish cs d state

/-- A directive, if it is well formed. -/
def parse? (text : String) : Option LogDirective := (parse text).toOption

/-- Whether a directive looks at spans. -/
def isDynamic (d : LogDirective) : Bool := d.span.isSome || !d.fields.isEmpty

/-- Whether a directive can be decided without looking at values. -/
def isStatic (d : LogDirective) : Bool :=
  d.span.isNone && d.fields.all (·.value.isNone)

/-- Whether two lists of fields are the same. -/
def sameFields : List LogField → List LogField → Bool
  | [], [] => true
  | a :: as, b :: bs => a.same b && sameFields as bs
  | _, _ => false

/-- Whether two directives are for the same messages. -/
def sameScope (a b : LogDirective) : Bool :=
  a.target == b.target && a.span == b.span && sameFields a.fields b.fields

/-- The written form of a directive. -/
def print (d : LogDirective) : String :=
  let fields := if d.fields.isEmpty then ""
    else "\x7b" ++ String.intercalate "," (d.fields.map LogField.print) ++ "\x7d"
  let scope := if d.isDynamic then "[" ++ d.span.getD "" ++ fields ++ "]" else ""
  let front := d.target.getD "" ++ scope
  if d.target.isSome ∨ d.isDynamic then front ++ "=" ++ d.level.name else d.level.name

end LogDirective

/-- The filter of a server: the directives that need no span, then those that do. -/
structure LogFilter where
  /-- Directives that need no span. -/
  statics : List LogDirective
  /-- Directives that look at spans. -/
  dynamics : List LogDirective
  deriving DecidableEq, Repr

namespace LogFilter

/-- Add a directive; one for the same messages is replaced. -/
def add (ds : List LogDirective) (d : LogDirective) : List LogDirective :=
  ds.filter (!d.sameScope ·) ++ [d]

/-- The filter of some directives. -/
def ofDirectives (ds : List LogDirective) : LogFilter :=
  let dynamics := ds.filter (·.isDynamic)
  let statics := ds.filter (!·.isDynamic) ++ dynamics.filter (·.isStatic)
  ⟨statics.foldl add [], dynamics.foldl add []⟩

/-- The texts of the directives in a list. -/
def directiveTexts (text : String) : List String :=
  ((Text.splitWhere (· == ',') text.toList).filter (!·.isEmpty)).map String.ofList

/-- Read a filter; all of its directives have to be well formed. -/
def parse? (text : String) : Option LogFilter :=
  ((directiveTexts text).mapM LogDirective.parse?).map ofDirectives

/-- Read a filter from the directives that are well formed; without any, errors are logged. -/
def parseLossy (text : String) : LogFilter :=
  let ds := (directiveTexts text).filterMap LogDirective.parse?
  if ds.isEmpty then ofDirectives [⟨none, none, [], .error⟩] else ofDirectives ds

/-- The faulty directives of a filter. -/
def faults (text : String) : List (String × LogFault) :=
  (directiveTexts text).filterMap fun d =>
    match LogDirective.parse d with
    | .ok _ => none
    | .error e => some (d, e)

/-- The configured level for the server's own messages. -/
def configured (config : ObservabilityConfig) : String :=
  "preview_server=" ++ config.logLevel ++ ",tower_http=" ++ config.logLevel

/-- The filter of a server: the one that the environment gives, if it is well formed, or else that
of the configured level. -/
def resolve (config : ObservabilityConfig) (environment : Option String) : LogFilter :=
  match environment.bind parse? with
  | some filter => filter
  | none => parseLossy (configured config)

/-- What is said about the directives that are not used. -/
def warnings (config : ObservabilityConfig) (environment : Option String) : List String :=
  match environment.bind parse? with
  | some _ => []
  | none => (faults (configured config)).map fun (d, e) => "ignoring `" ++ d ++ "`: " ++ e.message

/-- Whether a message of a level is logged, where that hangs on its target alone: of the directives
whose target the message's begins with, that with the longest one decides. -/
def allows (f : LogFilter) (target : String) (level : LogLevel) : Bool :=
  let fitting := f.statics.filter fun d => d.fields.isEmpty && target.startsWith (d.target.getD "")
  let longest := fitting.foldl (fun best d =>
    match best with
    | some b => if (b.target.getD "").length ≤ (d.target.getD "").length then some d else some b
    | none => some d) (none : Option LogDirective)
  longest.any fun d => LogLevel.all.idxOf level ≤ LogLevel.all.idxOf d.level

/-- The written form of a filter. -/
def print (f : LogFilter) : String :=
  String.intercalate "," ((f.statics ++ f.dynamics).map LogDirective.print)

end LogFilter

end PagePreview
