import PagePreview.Http.Message
import PagePreview.Text.Html

/-!
# Redirects

A redirect is answered with status 303, the location as it is, and a page that links to it. A
location that cannot be the value of a header is a fault of the server.
-/

namespace PagePreview.Response

/-- The page of a redirect. -/
def redirectPage (location : String) : String :=
  "Redirecting to <a href=\x22" ++ Html.escape location ++ "\x22>" ++ Html.escape location ++
    "</a>\n"

/-- The answer that sends a client elsewhere. -/
def seeOther (location : String) : Response :=
  let value := Utf8.encode location
  if isHeaderValue value then
    ⟨303, [⟨"content-type", Utf8.encode "text/html; charset=utf-8"⟩, ⟨"location", value⟩],
      Utf8.encode (redirectPage location)⟩
  else bare 500

end PagePreview.Response
