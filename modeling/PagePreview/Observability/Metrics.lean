import PagePreview.Rule.Action
import PagePreview.Text.Ascii

/-!
# Counters

Requests that a rule matches are counted by the rule's action, and forwarded requests by their
outcome. Every forwarded request also adds one sample to the durations of its outcome. A counter
that has never been raised is not shown.
-/

namespace PagePreview

/-- How forwarding ended. -/
inductive Outcome where
  /-- The server answered. -/
  | ok
  /-- It could not be asked, or did not answer. -/
  | error
  deriving DecidableEq, Repr

namespace Outcome

/-- The name of an outcome. -/
def name : Outcome → String
  | .ok => "ok"
  | .error => "error"

/-- Every outcome, once. -/
def all : List Outcome := [.ok, .error]

end Outcome

/-- What has been counted. -/
structure Metrics where
  /-- Requests that a rule with this action matched. -/
  matched : Action → Nat
  /-- Forwarded requests that ended so. -/
  forwarded : Outcome → Nat
  /-- Samples of durations of forwarded requests that ended so. -/
  samples : Outcome → Nat

namespace Metrics

/-- Nothing has been counted. -/
def initial : Metrics := ⟨fun _ => 0, fun _ => 0, fun _ => 0⟩

/-- Count a request that a rule matched. -/
def recordMatch (action : Action) (m : Metrics) : Metrics :=
  { m with matched := fun a => if a = action then m.matched a + 1 else m.matched a }

/-- Count a forwarded request and its duration. -/
def recordForwarded (outcome : Outcome) (m : Metrics) : Metrics :=
  { m with
    forwarded := fun o => if o = outcome then m.forwarded o + 1 else m.forwarded o
    samples := fun o => if o = outcome then m.samples o + 1 else m.samples o }

/-- The line of a counter; none while it is zero. -/
def line? (series label value : String) (count : Nat) : Option String :=
  if count = 0 then none
  else some (series ++ "\x7b" ++ label ++ "=\x22" ++ value ++ "\x22\x7d " ++ Ascii.decimal count)

/-- The lines of all counters that have been raised, in order. -/
def lines (m : Metrics) : List String :=
  (Outcome.all.filterMap (fun o =>
      line? "preview_proxy_duration_seconds_count" "outcome" o.name (m.samples o)) ++
    Outcome.all.filterMap (fun o =>
      line? "preview_proxy_requests_total" "outcome" o.name (m.forwarded o)) ++
    Action.all.filterMap (fun a =>
      line? "preview_rule_matches_total" "action" a.keyword (m.matched a))).mergeSort

end Metrics

end PagePreview
