/-!
# Configuration

Every setting has a default, so an empty configuration is complete. Paths are kept as they are
written.
-/

namespace PagePreview

/-- When the rule files are read again. -/
inductive ReloadPolicy where
  /-- For every request. -/
  | perRequest
  /-- When one of them changes. -/
  | watch
  /-- Never after the start. -/
  | startup
  deriving DecidableEq, Repr, Inhabited

namespace ReloadPolicy

/-- Every policy, once. -/
def all : List ReloadPolicy := [.perRequest, .watch, .startup]

/-- The name of a policy in a configuration. -/
def name : ReloadPolicy → String
  | .perRequest => "per_request"
  | .watch => "watch"
  | .startup => "startup"

/-- The policy with a name. -/
def ofName? (name : String) : Option ReloadPolicy := all.find? (·.name == name)

end ReloadPolicy

/-- Where the server listens. -/
structure ListenerConfig where
  /-- The address and port. -/
  bindAddress : String := "127.0.0.1:8080"
  deriving DecidableEq, Repr

/-- Where the rules come from. -/
structure RewriteConfig where
  /-- The rule files, in order. -/
  ruleFiles : List String := ["server.conf"]
  /-- When they are read again. -/
  reload : ReloadPolicy := .perRequest
  deriving DecidableEq, Repr

/-- Where templates and fixtures are. -/
structure FixtureConfig where
  /-- The root of the templates. -/
  viewPath : String := "views"
  /-- The roots of the data, in the order in which they are searched. -/
  dataPaths : List String := ["test"]
  deriving DecidableEq, Repr

/-- How requests are forwarded. -/
structure ForwardingConfig where
  /-- How many seconds a server has for its answer; without a number, any. -/
  timeoutSecs : Option Nat := none
  /-- How many seconds an idle connection is kept. -/
  poolIdleTimeoutSecs : Nat := 90
  deriving DecidableEq, Repr

/-- What is logged and counted. -/
structure ObservabilityConfig where
  /-- The least level of messages that are logged. -/
  logLevel : String := "info"
  /-- Whether the counters can be asked for. -/
  metricsEnabled : Bool := false
  /-- The address and port where the counters can be asked for. -/
  metricsAddress : String := "127.0.0.1:9090"
  deriving DecidableEq, Repr

/-- A configuration. -/
structure Config where
  /-- Where the server listens. -/
  listener : ListenerConfig := {}
  /-- Where the rules come from. -/
  rewrite : RewriteConfig := {}
  /-- Where templates and fixtures are. -/
  fixtures : FixtureConfig := {}
  /-- How requests are forwarded. -/
  proxy : ForwardingConfig := {}
  /-- What is logged and counted. -/
  observability : ObservabilityConfig := {}
  deriving DecidableEq, Repr

end PagePreview
