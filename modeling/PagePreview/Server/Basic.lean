import PagePreview.Observability.Metrics
import PagePreview.Rule.Dispatch
import PagePreview.Rule.Store
import PagePreview.Server.Stages

/-!
# The server

Every request gets an identifier if it has none, is dispatched by the rules in force, and is
answered by a redirect, by another server or by the stages. The answer carries the identifier,
unless it has one of its own.
-/

namespace PagePreview

/-- The field that identifies a request. -/
def requestIdName : String := "x-request-id"

/-- The request with an identifier: the client's own, or a fresh one. -/
def Request.identify (fresh : Bytes) (r : Request) : Request :=
  match Headers.first? requestIdName r.headers with
  | some _ => r
  | none => { r with headers := r.headers ++ [⟨requestIdName, fresh⟩] }

/-- The response with the identifier of its request, unless it has one. -/
def Response.propagate (id : Option Bytes) (response : Response) : Response :=
  match id, Headers.first? requestIdName response.headers with
  | some value, none => { response with headers := response.headers ++ [⟨requestIdName, value⟩] }
  | _, _ => response

/-- A granted `CONNECT` is answered without a body. -/
def Response.shapeConnect (method : String) (response : Response) : Response :=
  if method = "CONNECT" ∧ 200 ≤ response.status ∧ response.status < 300 then
    { response with body := [] }
  else response

/-- A server. -/
structure Server where
  /-- The rules in force. -/
  rules : RuleStore
  /-- Where templates and data are. -/
  fixtures : FixtureConfig
  /-- What the application supplies. -/
  hooks : Hooks

namespace Server

open Traced (note)

/-- A server as it is configured, before it has read its rules. -/
def ofConfig (c : Config) : Server :=
  ⟨.ofFiles c.rewrite.ruleFiles c.rewrite.reload, c.fixtures, .default⟩

/-- The server with rules that come from no file. -/
def withRules (rules : RuleSet) (s : Server) : Server := { s with rules := .fixed rules }

/-- The server as it starts to listen: it has read its rule files once, if it has any. -/
def start (disk : Disk) (s : Server) : Server :=
  if s.rules.files.isEmpty then s else { s with rules := s.rules.reload disk }

/-- Carry out a step of dispatch. -/
def carryOut (network : Network) (site : Site) : Step → Traced Response
  | .proceed r => site.serve r
  | .respond response => return response
  | .forward r target => do
    let result := r.forward network target
    note (.forwarded result.sent result.succeeded)
    return result.response

/-- Count a match of a rule. -/
def noteMatch (rules : RuleSet) (target : RequestTarget) : Traced Unit :=
  match RuleSet.resolveTarget rules target with
  | some found => note (.matched found.rule.action)
  | none => return ()

/-- Answer a request under some rules. -/
def answer (network : Network) (site : Site) (rules : RuleSet) (r : Request) : Traced Response := do
  noteMatch rules r.target
  let response ← carryOut network site ((rules.plan r.target).apply r)
  return response.shapeConnect r.method

/-- Handle a request: the answer, and the server afterwards. -/
def handle (network : Network) (disk : Disk) (fresh : Bytes) (s : Server) (r : Request) :
    Traced Response × Server :=
  let identified := r.identify fresh
  let store := s.rules.forRequest disk
  let answered := do
    let response ← answer network ⟨disk, s.fixtures, s.hooks⟩ store.published identified
    return response.propagate (Headers.first? requestIdName identified.headers)
  (answered, { s with rules := store })

end Server

/-- Count what was done for a request. -/
def Metrics.record (m : Metrics) : Event → Metrics
  | .matched action => m.recordMatch action
  | .forwarded _ succeeded => m.recordForwarded (if succeeded then .ok else .error)
  | _ => m

end PagePreview
