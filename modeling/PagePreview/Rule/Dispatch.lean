import PagePreview.Http.Redirect
import PagePreview.Proxy.Target
import PagePreview.Rule.Set

/-!
# Dispatch

For each request the first matching rule decides what happens: the request goes on unchanged or
with another target, is answered with a redirect, or is forwarded. A match whose target turns out to
be unusable lets the request go on unchanged, and no later rule is tried.
-/

namespace PagePreview

/-- What is decided for a request. -/
inductive Dispatch where
  /-- It goes on as it is. -/
  | passThrough
  /-- It is answered with a redirect to this location. -/
  | redirect (location : String)
  /-- It goes on with this target. -/
  | rewrite (target : RequestTarget)
  /-- It is forwarded. -/
  | proxy (target : ProxyTarget)
  deriving DecidableEq, Repr

/-- The request target that a rewrite gives: a path or an absolute URL. -/
def rewriteTarget? (text : String) : Option RequestTarget :=
  match RequestTarget.parse text with
  | .error _ => none
  | .ok t => if text.toList.head? = some '/' ∨ t.scheme.isSome then some t else none

namespace Dispatch

/-- What a match decides for a request with some query. -/
def ofMatch (m : Match) (query : Option String) : Dispatch :=
  match m.rule.action with
  | .redirect => .redirect m.target
  | .rewrite =>
    match rewriteTarget? m.target with
    | some t => .rewrite t
    | none => .passThrough
  | .proxy =>
    match ProxyTarget.parse m.target query with
    | .ok t => .proxy t
    | .error _ => .passThrough

end Dispatch

/-- What rules decide for a request target. -/
def RuleSet.plan (rules : RuleSet) (target : RequestTarget) : Dispatch :=
  match RuleSet.resolveTarget rules target with
  | none => .passThrough
  | some m => .ofMatch m target.query

/-- What becomes of a request once a decision is carried out. -/
inductive Step where
  /-- It goes on. -/
  | proceed (request : Request)
  /-- It is answered. -/
  | respond (response : Response)
  /-- It is forwarded. -/
  | forward (request : Request) (target : ProxyTarget)
  deriving Repr

/-- Carry out a decision. -/
def Dispatch.apply : Dispatch → Request → Step
  | .passThrough, r => .proceed r
  | .redirect location, _ => .respond (.seeOther location)
  | .rewrite target, r => .proceed { r.preserve with target }
  | .proxy target, r => .forward r.preserve target

end PagePreview
