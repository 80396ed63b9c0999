import PagePreview.Config.Basic
import PagePreview.Net.SocketAddress

/-!
# Checking a configuration

Every fault is reported once, in the order of the checks: the address to listen on, the address of
the counters if they are enabled, the time limit, then the empty rule files and the empty data roots
by their places.
-/

namespace PagePreview

/-- A fault of a configuration. -/
inductive ConfigFault where
  /-- The address to listen on is none. -/
  | invalidBindAddress (text : String)
  /-- The address of the counters is none. -/
  | invalidMetricsAddress (text : String)
  /-- The time limit is zero. -/
  | zeroTimeout
  /-- The rule file at a place is empty. -/
  | emptyRuleFile (index : Nat)
  /-- The data root at a place is empty. -/
  | emptyDataPath (index : Nat)
  deriving DecidableEq, Repr

namespace ConfigFault

/-- The wording of a fault. -/
def message : ConfigFault → String
  | .invalidBindAddress text => "listener.bind_address `" ++ text ++ "` is not a socket address"
  | .invalidMetricsAddress text =>
    "observability.metrics_address `" ++ text ++ "` is not a socket address"
  | .zeroTimeout => "proxy.timeout_secs must be greater than zero"
  | .emptyRuleFile index => "rewrite.rule_files[" ++ Ascii.decimal index ++ "] is empty"
  | .emptyDataPath index => "fixtures.data_paths[" ++ Ascii.decimal index ++ "] is empty"

end ConfigFault

namespace Config

/-- The places of the empty texts in a list whose first place is given. -/
def emptyPlaces : Nat → List String → List Nat
  | _, [] => []
  | place, s :: rest =>
    if s.isEmpty then place :: emptyPlaces (place + 1) rest else emptyPlaces (place + 1) rest

/-- The faults of a configuration. -/
def faults (c : Config) : List ConfigFault :=
  (if SocketAddress.isValid c.listener.bindAddress then []
    else [.invalidBindAddress c.listener.bindAddress]) ++
  (if c.observability.metricsEnabled && !SocketAddress.isValid c.observability.metricsAddress
    then [.invalidMetricsAddress c.observability.metricsAddress] else []) ++
  (if c.proxy.timeoutSecs = some 0 then [.zeroTimeout] else []) ++
  (emptyPlaces 0 c.rewrite.ruleFiles).map .emptyRuleFile ++
  (emptyPlaces 0 c.fixtures.dataPaths).map .emptyDataPath

end Config

end PagePreview
