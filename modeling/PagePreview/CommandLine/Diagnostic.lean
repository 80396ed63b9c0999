import PagePreview.Config.Loading
import PagePreview.Text.Quoted

/-!
# How failures are shown to the user

A failure is shown as a term: the name of what failed, with its parts. Texts are quoted.
-/

namespace PagePreview

/-- A failure of the system. -/
structure SystemFailure where
  /-- Its number. -/
  number : Nat
  /-- Its kind. -/
  kind : String
  /-- What the system says. -/
  text : String
  deriving DecidableEq, Repr

namespace SystemFailure

/-- The machine has no such address. -/
def addressNotAvailable : SystemFailure :=
  ⟨99, "AddrNotAvailable", "Cannot assign requested address"⟩

/-- A failure of the system as a term. -/
def diagnostic (f : SystemFailure) : String :=
  "Os \x7b code: " ++ Ascii.decimal f.number ++ ", kind: " ++ f.kind ++ ", message: " ++
    Quoted.quote f.text ++ " \x7d"

end SystemFailure

/-- A failure to read as a term. -/
def DiskError.diagnostic (e : DiskError) : String :=
  match e.number? with
  | some n => SystemFailure.diagnostic ⟨n, e.kind, e.text⟩
  | none => "Error \x7b kind: " ++ e.kind ++ ", message: " ++ Quoted.quote e.text ++ " \x7d"

/-- A fault of a configuration as a term. -/
def ConfigFault.diagnostic : ConfigFault → String
  | .invalidBindAddress text => "InvalidBindAddress(" ++ Quoted.quote text ++ ")"
  | .invalidMetricsAddress text => "InvalidMetricsAddress(" ++ Quoted.quote text ++ ")"
  | .zeroTimeout => "ZeroTimeout"
  | .emptyRuleFile index => "EmptyRuleFile(" ++ Ascii.decimal index ++ ")"
  | .emptyDataPath index => "EmptyDataPath(" ++ Ascii.decimal index ++ ")"

/-- Why there is no configuration, as a term. -/
def ConfigError.diagnostic : ConfigError → String
  | .io e => "Io(" ++ e.diagnostic ++ ")"
  | .parse => "Parse(..)"
  | .validation faults =>
    "Validation([" ++ String.intercalate ", " (faults.map ConfigFault.diagnostic) ++ "])"

end PagePreview
