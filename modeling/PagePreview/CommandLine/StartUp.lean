import PagePreview.CommandLine.Arguments
import PagePreview.CommandLine.Diagnostic
import PagePreview.Observability.LogFilter

/-!
# Starting the server

The configuration comes from the file that the command line names, or is the default one; what the
command line gives takes the place of what is configured. The whole is checked again, since an
option can be as wrong as a file. Then the server listens, or says why it does not.
-/

namespace PagePreview

/-- The configuration with what the command line gives in its place. -/
def Options.override (o : Options) (c : Config) : Config :=
  { c with
    listener := { c.listener with bindAddress := o.listen.getD c.listener.bindAddress }
    rewrite := { c.rewrite with
      ruleFiles := if o.rules.isEmpty then c.rewrite.ruleFiles else o.rules }
    fixtures := { c.fixtures with
      viewPath := o.views.getD c.fixtures.viewPath
      dataPaths := if o.data.isEmpty then c.fixtures.dataPaths else o.data } }

/-- Why the server does not start. -/
inductive StartFailure where
  /-- The configuration file cannot be used. -/
  | config (e : ConfigError)
  /-- The configuration with the options has faults. -/
  | faults (list : List ConfigFault)
  /-- The server may not listen at its address. -/
  | listen (failure : SystemFailure)
  deriving DecidableEq, Repr

namespace StartFailure

/-- What is said about a failure, line by line. -/
def lines : StartFailure → List String
  | .config e => ["Error: " ++ e.diagnostic]
  | .faults list =>
    (list.map fun f => "Invalid configuration: " ++ f.message) ++
      ["Error: " ++ Quoted.quote (Ascii.decimal list.length ++ " configuration error(s)")]
  | .listen failure => ["Error: " ++ failure.diagnostic]

end StartFailure

/-- The configuration of a server that is started with these options. -/
def Options.settledConfig (o : Options) (disk : Disk) : Except StartFailure Config := do
  let base ← match o.config with
    | some path => (Config.load disk path).mapError .config
    | none => pure {}
  let c := o.override base
  if c.faults.isEmpty then return c else throw (.faults c.faults)

/-- What comes of a call of the program. -/
inductive StartUp where
  /-- It ends, having written this to the user and to the error output, with a status. -/
  | ended (output : String) (errors : List String) (status : Nat)
  /-- It serves with a configuration, having written this to the error output. -/
  | serving (config : Config) (errors : List String)
  deriving DecidableEq, Repr

namespace StartUp

/-- Start with options. The addresses at which the program may listen are given, and so is the log
filter of the environment. -/
def ofOptions (mayListen : String → Bool) (environment : Option String) (disk : Disk)
    (o : Options) : StartUp :=
  match o.settledConfig disk with
  | .error e => .ended "" e.lines 1
  | .ok c =>
    let warnings := LogFilter.warnings c.observability environment
    if mayListen c.listener.bindAddress then .serving c warnings
    else .ended "" (warnings ++ (StartFailure.listen .addressNotAvailable).lines) 1

/-- Start with a command line. -/
def ofArguments (mayListen : String → Bool) (environment : Option String) (disk : Disk)
    (arguments : List String) : StartUp :=
  match Command.ofArguments arguments with
  | .error e => .ended "" [e.message] 2
  | .ok .help => .ended helpText [] 0
  | .ok (.serve o) => ofOptions mayListen environment disk o

end StartUp

end PagePreview
