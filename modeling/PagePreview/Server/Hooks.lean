import PagePreview.Http.Message
import PagePreview.Json.Printer

/-!
# What an application supplies

An application may supply a renderer, handlers of scripts, and a service for the requests that no
stage answers. Without them, a page is shown as its template and its data, scripts are not run, and
what nobody answers is not found.
-/

namespace PagePreview

/-- What an application supplies. -/
structure Hooks where
  /-- Render a template with data; this may fail. -/
  render : String → Json → Option Response
  /-- Run a script for a request; it may decline. -/
  script : Option (String → Request → Option Response)
  /-- Run the data script of a page, which may add to the data. -/
  pageData : Option (String → Request → Json → Option Json)
  /-- Answer what no stage answers. -/
  inner : Request → Response

namespace Hooks

/-- Show a template with its data. -/
def showData (template : String) (data : Json) : Response :=
  .typed 200 Response.jsonType
    (Utf8.encode (Json.render (.ofPairs [("template", .str template), ("data", data)])))

/-- The answer to what nobody answers. -/
def notFound : Response := .plain 404 "404 Not Found"

/-- What is done when an application supplies nothing. -/
def default : Hooks := ⟨fun template data => some (showData template data), none, none,
  fun _ => notFound⟩

end Hooks

end PagePreview
