import PagePreview.Config.Basic
import PagePreview.Json.Basic
import PagePreview.Toml.Basic

/-!
# Reading settings from a document

A group of settings is a table of named values or an array of values in the order in which the
settings are declared. A missing setting has its default, names that are not known are passed over,
and a value of the wrong kind makes the whole document unusable. Two formats are read alike, up to
what they call an array that is too long and a value that says nothing.
-/

namespace PagePreview

/-- How the values of a format are seen. -/
structure ConfigFormat (α : Type) where
  /-- The text of a string. -/
  text? : α → Option String
  /-- The value of a number that is whole and not negative. -/
  natural? : α → Option Nat
  /-- A truth value. -/
  flag? : α → Option Bool
  /-- The items of an array. -/
  items? : α → Option (List α)
  /-- The members of a table. -/
  members? : α → Option (List (String × α))
  /-- A value that stands for an optional setting that is not made. -/
  isAbsent : α → Bool
  /-- A value that says nothing beyond the name it stands at. -/
  isUnit : α → Bool
  /-- Whether an array may hold more items than there are settings. -/
  allowsSurplus : Bool

namespace ConfigFormat

variable {α : Type}

/-- TOML. A date is seen as a table without known members. -/
def toml : ConfigFormat Toml where
  text? | .string s => some s | _ => none
  natural? | .integer n => n.toNat? | _ => none
  flag? | .boolean b => some b | _ => none
  items? | .array items => some items | _ => none
  members? | .table members => some members | .date _ => some [] | _ => none
  isAbsent _ := false
  isUnit | .table [] => true | .array [] => true | _ => false
  allowsSurplus := true

/-- JSON. -/
def json : ConfigFormat Json where
  text? | .str s => some s | _ => none
  natural? | .int n => n.toNat? | _ => none
  flag? | .bool b => some b | _ => none
  items? | .arr items => some items | _ => none
  members? | .obj members => some members | _ => none
  isAbsent | .null => true | _ => false
  isUnit | .null => true | _ => false
  allowsSurplus := false

/-- The settings of a group by name. -/
def group? (form : ConfigFormat α) (names : List String) (v : α) : Option (List (String × α)) :=
  match form.members? v, form.items? v with
  | some members, _ => some members
  | none, some items =>
    if form.allowsSurplus ∨ items.length ≤ names.length then some (names.zip items) else none
  | none, none => none

/-- A setting, read if it is made. -/
def setting {β : Type} (settings : List (String × α)) (name : String) (read : α → Option β)
    (default : β) : Option β :=
  match settings.lookup name with
  | some v => read v
  | none => some default

/-- A list of texts. -/
def texts? (form : ConfigFormat α) (v : α) : Option (List String) :=
  (form.items? v).bind fun items => items.mapM form.text?

/-- A number that may be absent. -/
def optional? (form : ConfigFormat α) (v : α) : Option (Option Nat) :=
  if form.isAbsent v then some none else (form.natural? v).map some

/-- A policy: its name, or a table that has it as its only member. -/
def policy? (form : ConfigFormat α) (v : α) : Option ReloadPolicy :=
  match form.text? v, form.members? v with
  | some name, _ => ReloadPolicy.ofName? name
  | none, some [(name, payload)] =>
    if form.isUnit payload then ReloadPolicy.ofName? name else none
  | none, _ => none

/-- The settings of the listener. -/
def listener? (form : ConfigFormat α) (v : α) : Option ListenerConfig := do
  let base : ListenerConfig := {}
  let s ← form.group? ["bind_address"] v
  return { bindAddress := ← setting s "bind_address" form.text? base.bindAddress }

/-- The settings of the rules. -/
def rewrite? (form : ConfigFormat α) (v : α) : Option RewriteConfig := do
  let base : RewriteConfig := {}
  let s ← form.group? ["rule_files", "reload"] v
  return {
    ruleFiles := ← setting s "rule_files" form.texts? base.ruleFiles
    reload := ← setting s "reload" form.policy? base.reload }

/-- The settings of the fixtures. -/
def fixtures? (form : ConfigFormat α) (v : α) : Option FixtureConfig := do
  let base : FixtureConfig := {}
  let s ← form.group? ["view_path", "data_paths"] v
  return {
    viewPath := ← setting s "view_path" form.text? base.viewPath
    dataPaths := ← setting s "data_paths" form.texts? base.dataPaths }

/-- The settings of forwarding. -/
def proxy? (form : ConfigFormat α) (v : α) : Option ForwardingConfig := do
  let base : ForwardingConfig := {}
  let s ← form.group? ["timeout_secs", "pool_idle_timeout_secs"] v
  return {
    timeoutSecs := ← setting s "timeout_secs" form.optional? base.timeoutSecs
    poolIdleTimeoutSecs :=
      ← setting s "pool_idle_timeout_secs" form.natural? base.poolIdleTimeoutSecs }

/-- The settings of logging and counting. -/
def observability? (form : ConfigFormat α) (v : α) : Option ObservabilityConfig := do
  let base : ObservabilityConfig := {}
  let s ← form.group? ["log_level", "metrics_enabled", "metrics_address"] v
  return {
    logLevel := ← setting s "log_level" form.text? base.logLevel
    metricsEnabled := ← setting s "metrics_enabled" form.flag? base.metricsEnabled
    metricsAddress := ← setting s "metrics_address" form.text? base.metricsAddress }

/-- A configuration. -/
def config? (form : ConfigFormat α) (v : α) : Option Config := do
  let s ← form.group? ["listener", "rewrite", "fixtures", "proxy", "observability"] v
  return {
    listener := ← setting s "listener" form.listener? {}
    rewrite := ← setting s "rewrite" form.rewrite? {}
    fixtures := ← setting s "fixtures" form.fixtures? {}
    proxy := ← setting s "proxy" form.proxy? {}
    observability := ← setting s "observability" form.observability? {} }

end ConfigFormat

end PagePreview
