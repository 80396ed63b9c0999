import PagePreview.Fixture.Basic
import PagePreview.Fixture.Lookup
import PagePreview.Fixture.Page
import PagePreview.Config.Basic
import PagePreview.Json.Merge
import PagePreview.Request.Candidates
import PagePreview.Server.Event
import PagePreview.Server.Hooks

/-!
# The stages of the server

A request is offered to the preview of pages, then to the fixtures, and then handed to the
application, unless it is answered on the way. A page is previewed if its template is a file below
the root of the templates.
-/

namespace PagePreview

/-- What the stages work with. -/
structure Site where
  /-- The files. -/
  disk : Disk
  /-- Where templates and data are. -/
  fixtures : FixtureConfig
  /-- What the application supplies. -/
  hooks : Hooks

namespace Site

open Traced (note)

/-- Test whether a path leads to a file. -/
def testFile (site : Site) (path : String) : Traced Bool := do
  note (.tested path)
  return site.disk.isFile path

/-- The first file that a path leads to from the directories, which are tried one by one. -/
def findFile (site : Site) (path : String) : List String → Traced (Option String)
  | [] => return none
  | dir :: rest => do
    let candidate := Path.join dir path
    if ← site.testFile candidate then return some candidate
    findFile site path rest

/-- The first file that a path from a request leads to below the roots of data. -/
def findData (site : Site) (path : String) : Traced (Option String) :=
  match Fixture.safeRelative? path with
  | some safe => site.findFile safe site.fixtures.dataPaths
  | none => return none

/-- The value in a data file. -/
def loadJson (site : Site) (path : String) : Traced Json := do
  note (.opened path)
  return Fixture.loadJson site.disk path

/-- The data of a page; without a data file it is an empty object. -/
def pageFixture (site : Site) (page : PageRef) : Traced Json := do
  match ← site.findData page.dataName with
  | some file => site.loadJson file
  | none => return Json.empty

/-- The data of a page with what its data script adds. -/
def pageData (site : Site) (page : PageRef) (r : Request) : Traced Json := do
  let data ← site.pageFixture page
  match site.hooks.pageData with
  | none => return data
  | some handler =>
    match ← site.findData page.scriptName with
    | none => return data
    | some script =>
      note (.augmented script r)
      match handler script r data with
      | some locals => return Json.mergeLocals data locals
      | none => return data

/-- Render a page. -/
def renderPage (site : Site) (page : PageRef) (data : Json) : Traced Response := do
  let template := page.templateName
  note (.rendered template)
  match site.hooks.render template data with
  | some response => return response
  | none => return .plain 500 ("Failed to render " ++ template)

/-- The preview of pages: the answer, if the request is for a page with a template. -/
def preview (site : Site) (r : Request) : Traced (Option Response) :=
  match PageRef.ofPath? r.target.decodedPath with
  | none => return none
  | some page =>
    match Fixture.safeRelative? page.templateName with
    | none => return none
    | some template => do
      if ← site.testFile (Path.join site.fixtures.viewPath template) then
        let data ← site.pageData page r
        return some (← site.renderPage page data)
      else return none

/-- The answer that sends a fixture as it is. -/
def fixtureResponse (content : Bytes) : Response :=
  ⟨200, [⟨"content-type", Utf8.encode Response.jsonType⟩,
    ⟨"content-length", Utf8.encode (Ascii.decimal content.length)⟩], content⟩

/-- Send a fixture as it is. -/
def sendFixture (site : Site) (file : String) : Traced Response := do
  note (.opened file)
  match site.disk.read file with
  | .ok content => return fixtureResponse content
  | .error _ => return .plain 500 "Failed to read fixture"

/-- The fixtures: the answer, if the request is for a fixture that exists. A script is run only if
the application runs scripts, and may decline. -/
def script (site : Site) (r : Request) : Traced (Option Response) :=
  match FixtureRef.ofPath? r.target.decodedPath with
  | none => return none
  | some fixture => do
    match ← site.findData fixture.path with
    | none => return none
    | some file =>
      match fixture.kind, site.hooks.script with
      | .json, _ => return some (← site.sendFixture file)
      | .script, none => return none
      | .script, some handler =>
        note (.scripted file r)
        return handler file r

/-- The application's answer, with its length. An answer to `HEAD` has no body; one to `CONNECT`
that grants it has neither length nor body. -/
def shapeInner (method : String) (response : Response) : Response :=
  if method = "CONNECT" ∧ 200 ≤ response.status ∧ response.status < 300 then
    { response with body := [] }
  else
    let length := Utf8.encode (Ascii.decimal response.body.length)
    let headers := if (Headers.first? "content-length" response.headers).isSome then
        response.headers
      else response.headers ++ [⟨"content-length", length⟩]
    { response with headers, body := if method = "HEAD" then [] else response.body }

/-- Hand a request to the application. -/
def delegate (site : Site) (r : Request) : Traced Response := do
  note (.delegated r)
  return shapeInner r.method (site.hooks.inner r)

/-- Offer a request to one stage after the other. -/
def serve (site : Site) (r : Request) : Traced Response := do
  match ← site.preview r with
  | some response => return response
  | none =>
    match ← site.script r with
    | some response => return response
    | none => site.delegate r

end Site

end PagePreview
