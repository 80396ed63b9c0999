import PagePreview.Proofs.EscapedText
import PagePreview.Proofs.Redirects

/-!
# The page of a redirect

A page is read piece by piece: text, and tags with quoted attribute values. Whatever the location of
a redirect is, its page has one pair of tags and no other; the address of the link and the text
between the tags, with the characters put in the places of the entities, are the location. But a
location that cannot stand in a header has no page at all.
-/

namespace PagePreview

namespace Html

/-! ## Reading a page -/

/-- What a page consists of. -/
inductive Piece where
  /-- Text, as a reader sees it. -/
  | text (shown : List Char)
  /-- A tag by its name, with its attributes. The name of a tag that closes begins with a slash. -/
  | tag (name : List Char) (attributes : List (List Char × List Char))
  deriving DecidableEq, Repr

/-- Where the reader of a page is, with what was read there. -/
inductive Place where
  /-- In a text. -/
  | text (read : List Char)
  /-- In the name of a tag. -/
  | name (read : List Char)
  /-- In the name of an attribute, behind other attributes. -/
  | attribute (tag : List Char) (before : List (List Char × List Char)) (read : List Char)
  /-- In the value of an attribute, which ends with this mark. -/
  | value (tag : List Char) (before : List (List Char × List Char)) (name : List Char) (mark : Char)
    (read : List Char)

/-- The pieces of a page, read on from a place. An attribute counts when its value is closed, and a
tag that is not closed is none. -/
def pieces : Place → List Char → List Piece
  | .text read, [] => [.text (unescapeChars read)]
  | .name _, [] => []
  | .attribute _ _ _, [] => []
  | .value _ _ _ _ _, [] => []
  | .text read, c :: cs =>
    if c = '<' then .text (unescapeChars read) :: pieces (.name []) cs
    else pieces (.text (read ++ [c])) cs
  | .name read, c :: cs =>
    if c = '>' then .tag read [] :: pieces (.text []) cs
    else if c = ' ' then pieces (.attribute read [] []) cs
    else pieces (.name (read ++ [c])) cs
  | .attribute tag before read, c :: cs =>
    if c = '>' then .tag tag before :: pieces (.text []) cs
    else if c = '\x22' ∨ c = '\x27' then pieces (.value tag before read c []) cs
    else if c = ' ' ∨ c = '=' then pieces (.attribute tag before read) cs
    else pieces (.attribute tag before (read ++ [c])) cs
  | .value tag before name mark read, c :: cs =>
    if c = mark then pieces (.attribute tag (before ++ [(name, unescapeChars read)]) []) cs
    else pieces (.value tag before name mark (read ++ [c])) cs

/-- A text is read up to the next tag. -/
theorem pieces_text {cs : List Char} (h : '<' ∉ cs) (read rest : List Char) :
    pieces (.text read) (cs ++ rest) = pieces (.text (read ++ cs)) rest := by
  induction cs generalizing read with
  | nil => rw [List.nil_append, List.append_nil]
  | cons c cs ih =>
    obtain ⟨hc, hcs⟩ := not_or.mp (mt List.mem_cons.mpr h)
    rw [List.cons_append, pieces, if_neg (Ne.symm hc), ih hcs, List.append_assoc,
      List.singleton_append]

/-- A value is read up to its mark. -/
theorem pieces_value {mark : Char} {cs : List Char} (h : mark ∉ cs) (tag : List Char)
    (before : List (List Char × List Char)) (name read rest : List Char) :
    pieces (.value tag before name mark read) (cs ++ rest) =
      pieces (.value tag before name mark (read ++ cs)) rest := by
  induction cs generalizing read with
  | nil => rw [List.nil_append, List.append_nil]
  | cons c cs ih =>
    obtain ⟨hc, hcs⟩ := not_or.mp (mt List.mem_cons.mpr h)
    rw [List.cons_append, pieces, if_neg (Ne.symm hc), ih hcs, List.append_assoc,
      List.singleton_append]

/-- A page with one pair of tags, around a text and with an address that both are a location. -/
structure LinksOnce (location page : String) : Prop where
  /-- The page is a text, the tag that opens the link, the location, the tag that closes the link,
  and a text. -/
  pieces : ∃ front back, pieces (.text []) page.toList =
    [.text front, .tag "a".toList [("href".toList, location.toList)], .text location.toList,
      .tag "/a".toList [], .text back]
  /-- No other tag begins. -/
  begins : page.toList.count '<' = 2
  /-- No other tag ends. -/
  ends : page.toList.count '>' = 2

/-- A text without marks gets into a page as an address and as a text. -/
theorem pieces_link {cs : List Char} (h : ∀ c ∈ cs, ¬IsMark c) (rest : List Char) :
    pieces (.name []) ("a href=\x22".toList ++ (cs ++ ("\x22>".toList ++ (cs ++ '<' :: rest)))) =
      .tag "a".toList [("href".toList, unescapeChars cs)] :: .text (unescapeChars cs) ::
        pieces (.name []) rest := by
  have hquote : '\x22' ∉ cs := fun hmem => h _ hmem (by decide)
  have hless : '<' ∉ cs := fun hmem => h _ hmem (by decide)
  have hopens : ∀ cs, pieces (.name []) ("a href=\x22".toList ++ cs) =
      pieces (.value "a".toList [] "href".toList '\x22' []) cs := fun _ => rfl
  have hcloses : ∀ value cs,
      pieces (.value "a".toList [] "href".toList '\x22' value) ("\x22>".toList ++ cs) =
        .tag "a".toList [("href".toList, unescapeChars value)] :: pieces (.text []) cs :=
    fun _ _ => rfl
  rw [hopens, pieces_value hquote, List.nil_append, hcloses, pieces_text hless, List.nil_append,
    pieces, if_pos rfl]

end Html

namespace Response

/-- The page of a redirect, character by character. -/
theorem toList_redirectPage (location : String) :
    (redirectPage location).toList = "Redirecting to ".toList ++ '<' :: ("a href=\x22".toList ++
      ((Html.escape location).toList ++ ("\x22>".toList ++
        ((Html.escape location).toList ++ '<' :: "/a>\n".toList)))) := by
  have hfront : "Redirecting to <a href=\x22".toList =
      "Redirecting to ".toList ++ '<' :: "a href=\x22".toList := rfl
  have hback : "</a>\n".toList = '<' :: "/a>\n".toList := rfl
  unfold redirectPage
  rw [String.toList_append, String.toList_append, String.toList_append, String.toList_append,
    hfront, hback]
  simp only [List.append_assoc, List.cons_append]

/-- The page of a redirect has one link. -/
theorem linksOnce_redirectPage (location : String) :
    Html.LinksOnce location (redirectPage location) := by
  have hmarks : ∀ c ∈ (Html.escape location).toList, ¬Html.IsMark c :=
    fun c hc => Html.not_isMark_of_mem_escape hc
  have hless : (Html.escape location).toList.count '<' = 0 :=
    List.count_eq_zero_of_not_mem fun hmem => hmarks _ hmem (by decide)
  have hgreater : (Html.escape location).toList.count '>' = 0 :=
    List.count_eq_zero_of_not_mem fun hmem => hmarks _ hmem (by decide)
  have hlocation : Html.unescapeChars (Html.escape location).toList = location.toList := by
    conv => rhs; rw [← Html.unescape_escape location]
    rw [Html.unescape, String.toList_ofList]
  constructor
  · refine ⟨"Redirecting to ".toList, "\n".toList, ?_⟩
    rw [toList_redirectPage, Html.pieces_text (by decide), Html.pieces, if_pos rfl,
      Html.pieces_link hmarks, hlocation]
    rfl
  · rw [toList_redirectPage]
    simp only [List.count_append, List.count_cons, hless]
    rfl
  · rw [toList_redirectPage]
    simp only [List.count_append, List.count_cons, hgreater]
    rfl

end Response

namespace Html

/-- An escaped text holds no mark, every ampersand in it begins an entity, and the text is found
again, so that no two texts are escaped alike; texts are escaped part by part. A redirect to a
location that may stand in a header comes with a page that links to it once, and one to any other
location has no page. -/
theorem escape_is_safe_and_lossless (text other location : String) :
    (∀ c ∈ (escape text).toList, c ≠ '<' ∧ c ≠ '>' ∧ c ≠ '\x22' ∧ c ≠ '\x27') ∧
    (∀ back, '&' :: back <:+ (escape text).toList → ∃ e ∈ entities, e.written <+: '&' :: back) ∧
    unescape (escape text) = text ∧
    (escape text = escape other ↔ text = other) ∧
    escape (text ++ other) = escape text ++ escape other ∧
    (((∀ c ∈ location.toList, ¬IsControl c) ∧
        ∃ page, Utf8.decode? (Response.seeOther location).body = some page ∧
          LinksOnce location page) ∨
      ((∃ c ∈ location.toList, IsControl c) ∧ (Response.seeOther location).status = 500 ∧
        (Response.seeOther location).body = [])) := by
  refine ⟨?_, fun back => exists_entity_of_suffix, unescape_escape text, ?_,
    escape_append text other, ?_⟩
  · intro c hc
    simpa [IsMark] using not_isMark_of_mem_escape hc
  · constructor
    · intro h
      rw [← unescape_escape text, h, unescape_escape]
    · exact congrArg escape
  · by_cases hcontrol : ∃ c ∈ location.toList, IsControl c
    · obtain ⟨c, hmem, hc⟩ := hcontrol
      have hrefuses := Response.refuses_seeOther hmem hc
      exact .inr ⟨⟨c, hmem, hc⟩, hrefuses.status, hrefuses.body⟩
    · have hplain : ∀ c ∈ location.toList, ¬IsControl c := fun c hmem hc => hcontrol ⟨c, hmem, hc⟩
      refine .inl ⟨hplain, Response.redirectPage location, ?_,
        Response.linksOnce_redirectPage location⟩
      exact Utf8.decode?_eq_some_iff.mpr (Response.sendsTo_seeOther hplain).body

/-- A text that reads like an entity is not taken for one. -/
example : unescape (escape "&lt;") = "&lt;" ∧ escape "&lt;" = "&amp;lt;" := by decide +kernel

/-- A redirect to a location with a line end has no page, and so no link to it. -/
theorem refused_location_has_no_page :
    ∃ page, Utf8.decode? (Response.seeOther "/bad\nheader").body = some page ∧
      ¬LinksOnce "/bad\nheader" page := by
  have hrefuses : (Response.seeOther "/bad\nheader").Refuses :=
    Response.refuses_seeOther (c := '\n') (by decide) (by decide)
  refine ⟨"", ?_, ?_⟩
  · rw [hrefuses.body]
    rfl
  · intro h
    exact absurd h.begins (by decide)

end Html

end PagePreview
