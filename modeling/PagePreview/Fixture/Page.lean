import PagePreview.Text.Ascii
import PagePreview.Unicode.Alphanumeric

/-!
# Pages

A path names a page if it is a slash, a namespace of letters, numbers, underscores and hyphens, the
word `page` in any case between slashes, and the name of the page. One `.tpl` at the end of the
name, in any case, is dropped.
-/

namespace PagePreview

/-- A page to preview. -/
structure PageRef where
  /-- The namespace. -/
  namespaceName : String
  /-- The name of the page, which may have slashes. -/
  page : String
  deriving DecidableEq, Repr

namespace PageRef

/-- A character of a namespace. -/
def isNamespaceChar (c : Char) : Bool := Unicode.isAlphanumeric c || c == '_' || c == '-'

/-- The text before the first slash and the text after it. -/
def cut? (cs : List Char) : Option (List Char × List Char) :=
  match cs.span (· != '/') with
  | (front, _ :: rest) => some (front, rest)
  | (_, []) => none

/-- Drop `.tpl` from the end. -/
def dropTemplateSuffix (cs : List Char) : List Char :=
  let stem := cs.take (cs.length - 4)
  if (cs.drop (cs.length - 4)).map Ascii.lower = ['.', 't', 'p', 'l'] then stem else cs

/-- The page that a path names. -/
def ofPath? (path : String) : Option PageRef :=
  match path.toList with
  | '/' :: rest => do
    let (name, rest) ← cut? rest
    let (keyword, page) ← cut? rest
    if !name.isEmpty && name.all isNamespaceChar && keyword.map Ascii.lower == "page".toList then
      some ⟨String.ofList name, String.ofList (dropTemplateSuffix page)⟩
    else none
  | _ => none

/-- The template of a page, seen from the root of the templates. -/
def templateName (p : PageRef) : String := p.namespaceName ++ "/" ++ p.page ++ ".tpl"

/-- The data of a page, seen from a root of data. -/
def dataName (p : PageRef) : String := p.namespaceName ++ "/page/" ++ p.page ++ ".json"

/-- The data script of a page, seen from a root of data. -/
def scriptName (p : PageRef) : String := p.namespaceName ++ "/page/" ++ p.page ++ ".js"

end PageRef

end PagePreview
