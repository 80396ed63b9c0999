import Mathlib.Data.List.DropRight
import PagePreview.Proofs.PrintedHost
import PagePreview.Proofs.Words

/-!
# What is read as an `http` URL

Such a URL has a host, and its path begins with a slash. What may not stand in its path or query has
been escaped, so both are in ASCII and hold none of the characters that are escaped there.
-/

namespace PagePreview

namespace Percent

/-- The digits of an escape are letters and digits. -/
theorem isAlphanumeric_upperHexDigit {n : Nat} (h : n < 16) :
    Ascii.isAlphanumeric (Ascii.upperHexDigit n) := by
  have hall : ∀ n < 16, Ascii.isAlphanumeric (Ascii.upperHexDigit n) := by decide
  exact hall n h

/-- What is written is a character that need not be escaped, or part of an escape. -/
theorem mem_encode {escaped : Char → Bool} {cs : List Char} {c : Char} (h : c ∈ encode escaped cs) :
    (c ∈ cs ∧ c.toNat < 0x80 ∧ escaped c = false) ∨ c = '%' ∨ Ascii.isAlphanumeric c := by
  obtain ⟨x, hx, hc⟩ := List.mem_flatMap.mp h
  unfold encodeChar at hc
  by_cases hkept : x.toNat < 0x80 ∧ escaped x = false
  · rw [if_pos hkept] at hc
    rw [List.mem_singleton.mp hc]
    exact .inl ⟨hx, hkept⟩
  · rw [if_neg hkept] at hc
    obtain ⟨b, _, hc⟩ := List.mem_flatMap.mp hc
    have hb : b.toNat < 256 := b.toNat_lt
    unfold escapeByte at hc
    simp only [List.mem_cons, List.not_mem_nil, or_false] at hc
    rcases hc with rfl | rfl | rfl
    · exact .inr (.inl rfl)
    · exact .inr (.inr (isAlphanumeric_upperHexDigit (by omega)))
    · exact .inr (.inr (isAlphanumeric_upperHexDigit (by omega)))

end Percent

namespace WebUrl

/-- A character that is not escaped where the test says which are. -/
def IsUnescaped (escaped : Char → Bool) (c : Char) : Prop := c.toNat < 0x80 ∧ escaped c = false

/-- Where nothing has to be escaped, nothing is. -/
theorem encode_eq_self {escaped : Char → Bool} {cs : List Char}
    (h : ∀ c ∈ cs, IsUnescaped escaped c) : Percent.encode escaped cs = cs := by
  unfold Percent.encode
  induction cs with
  | nil => rfl
  | cons c rest ih =>
    have hc : Percent.encodeChar escaped c = [c] := if_pos (h c List.mem_cons_self)
    rw [List.flatMap_cons, hc, ih fun x hx => h x (List.mem_cons_of_mem c hx)]
    rfl

/-- What needs no escape is written as it is. -/
theorem encodePart_eq_self {escaped : Char → Bool} {s : String}
    (h : ∀ c ∈ s.toList, IsUnescaped escaped c) : encodePart escaped s.toList = s := by
  unfold encodePart
  rw [encode_eq_self h, String.ofList_toList]

/-- Escaping leaves nothing to escape, as long as escapes need no escaping. -/
theorem isUnescaped_of_mem {escaped : Char → Bool}
    (hkept : ∀ n < 0x80, Ascii.isAlphanumeric (Char.ofNat n) ∨ Char.ofNat n = '%' →
      escaped (Char.ofNat n) = false)
    {cs : List Char} {c : Char} (h : c ∈ (encodePart escaped cs).toList) :
    IsUnescaped escaped c := by
  have hkeeps : c.toNat < 0x80 → Ascii.isAlphanumeric c ∨ c = '%' → IsUnescaped escaped c := by
    intro hlt hc
    refine ⟨hlt, ?_⟩
    revert hc
    exact Ascii.forall_lt
      (P := fun c => Ascii.isAlphanumeric c ∨ c = '%' → escaped c = false) hkept hlt
  unfold encodePart at h
  rw [String.toList_ofList] at h
  rcases Percent.mem_encode h with ⟨-, hc⟩ | rfl | hc
  · exact hc
  · exact hkeeps (by decide) (.inr rfl)
  · exact hkeeps (Ascii.toNat_lt_of_isAlphanumeric hc) (.inl hc)

/-- What is written of a path needs no escape there. -/
theorem isUnescaped_path {cs : List Char} {c : Char}
    (h : c ∈ (encodePart escapedInPath cs).toList) : IsUnescaped escapedInPath c :=
  isUnescaped_of_mem (by decide) h

/-- What is written of a query needs no escape there. -/
theorem isUnescaped_query {cs : List Char} {c : Char}
    (h : c ∈ (encodePart (escapedInQuery true) cs).toList) :
    IsUnescaped (escapedInQuery true) c :=
  isUnescaped_of_mem (by decide) h

/-! ## Paths -/

/-- The way up only leaves segments out. -/
theorem mem_of_mem_goUp {done : List String} {s : String} (h : s ∈ goUp done) : s ∈ done := by
  cases done with
  | nil => exact h
  | cons other rest =>
    rw [goUp] at h
    split at h
    · exact h
    · exact List.mem_cons_of_mem other h

/-- A path with segments has some when it is resolved. -/
theorem resolve_ne_nil {done : List String} {segments : List (List Char)} (h : segments ≠ []) :
    resolve done segments ≠ [] := by
  fun_induction resolve done segments with
  | case1 done => exact absurd rfl h
  | case2 done last hdouble => simp
  | case3 done last _ hsingle => simp
  | case4 done last _ _ => simp
  | case5 done s rest hrest hdouble ih => exact ih (by simpa using hrest)
  | case6 done s rest hrest _ hsingle ih => exact ih (by simpa using hrest)
  | case7 done s rest hrest _ _ ih => exact ih (by simpa using hrest)

/-- What holds of the empty segment and of every segment without dots to resolve once it is encoded,
holds of all that are left when dots are resolved. -/
theorem forall_mem_resolve {P : String → Prop} {done : List String} {segments : List (List Char)}
    (hempty : P "") (hdone : ∀ s ∈ done, P s)
    (hencoded : ∀ cs ∈ segments, isDoubleDot cs = false → isSingleDot cs = false →
      P (encodePart escapedInPath cs)) :
    ∀ s ∈ resolve done segments, P s := by
  have hcons : ∀ {s : String} {done : List String}, P s → (∀ s ∈ done, P s) →
      ∀ x ∈ s :: done, P x := by
    intro s done hs hdone x hx
    rcases List.mem_cons.mp hx with rfl | hx
    · exact hs
    · exact hdone x hx
  have hreverse : ∀ {done : List String}, (∀ s ∈ done, P s) → ∀ s ∈ done.reverse, P s :=
    fun hdone s hs => hdone s (List.mem_reverse.mp hs)
  have hup : ∀ {done : List String}, (∀ s ∈ done, P s) → ∀ s ∈ goUp done, P s :=
    fun hdone s hs => hdone s (mem_of_mem_goUp hs)
  fun_induction resolve done segments with
  | case1 done => exact hreverse hdone
  | case2 done last hdouble => exact hreverse (hcons hempty (hup hdone))
  | case3 done last _ hsingle => exact hreverse (hcons hempty hdone)
  | case4 done last hdouble hsingle =>
    exact hreverse (hcons (hencoded last List.mem_cons_self (by simpa using hdouble)
      (by simpa using hsingle)) hdone)
  | case5 done s rest hrest hdouble ih =>
    exact ih (hup hdone) fun cs hcs => hencoded cs (List.mem_cons_of_mem s hcs)
  | case6 done s rest hrest _ hsingle ih =>
    exact ih hdone fun cs hcs => hencoded cs (List.mem_cons_of_mem s hcs)
  | case7 done s rest hrest hdouble hsingle ih =>
    exact ih (hcons (hencoded s List.mem_cons_self (by simpa using hdouble)
      (by simpa using hsingle)) hdone) fun cs hcs => hencoded cs (List.mem_cons_of_mem s hcs)

/-- Whatever is split has a part. -/
theorem splitWhere_ne_nil {α : Type} (p : α → Bool) (xs : List α) :
    Text.splitWhere p xs ≠ [] := by
  rw [Text.splitWhere_eq_splitOnP]
  exact List.splitOnP_ne_nil p xs

/-- A path that begins with a slash and has nothing to escape. -/
structure PathWritten (path : UrlPath) : Prop where
  /-- The first character is a slash. -/
  slash : ∃ rest, path.text.toList = '/' :: rest
  /-- No character has to be escaped. -/
  chars : ∀ c ∈ path.text.toList, IsUnescaped escapedInPath c

/-- The characters of a path: each segment behind a slash. -/
theorem toList_segments (segments : List String) :
    (UrlPath.segments segments).text.toList = segments.flatMap fun s => '/' :: s.toList := by
  unfold UrlPath.text
  dsimp only
  rw [String.toList_join, List.flatMap_map]
  congr 1
  funext s
  exact String.toList_append

/-- A path that is read is written as one. -/
theorem pathWritten_pathOf (cs : List Char) : PathWritten (pathOf true cs) := by
  have hall : ∀ s ∈ resolve [] (Text.splitWhere (isSlash true) cs),
      ∀ c ∈ s.toList, IsUnescaped escapedInPath c :=
    forall_mem_resolve nofun nofun fun _ _ _ _ _ => isUnescaped_path
  unfold pathOf
  constructor
  · rw [toList_segments]
    cases hs : resolve [] (Text.splitWhere (isSlash true) cs) with
    | nil => exact absurd hs (resolve_ne_nil (splitWhere_ne_nil (isSlash true) cs))
    | cons s rest => exact ⟨_, rfl⟩
  · rw [toList_segments]
    intro c hc
    obtain ⟨s, hs, hc⟩ := List.mem_flatMap.mp hc
    rcases List.mem_cons.mp hc with rfl | hc
    · exact ⟨by decide, by decide⟩
    · exact hall s hs c hc

/-! ## Whole URLs -/

/-- What is around a URL and what is inside are ignored in turn. -/
theorem clean_eq_filter (cs : List Char) :
    clean cs = ((cs.dropWhile isOuterBlank).rdropWhile isOuterBlank).filter
      fun c => c != '\t' && c != '\n' && c != '\r' := rfl

/-- What holds of every `http` URL that is read. -/
structure HttpWritten (url : WebUrl) : Prop where
  /-- There is a host. -/
  host : ∃ host, url.host = some host ∧ PrintedHost host.text.toList
  /-- The path is written. -/
  path : PathWritten url.path
  /-- Nothing in the query has to be escaped. -/
  query : ∀ q, url.query = some q → ∀ c ∈ q.toList, IsUnescaped (escapedInQuery true) c

/-- The host of a URL that is written so is a printed one. -/
theorem HttpWritten.printed_of_host {url : WebUrl} (h : HttpWritten url) {host : Host}
    (hhost : url.host = some host) : PrintedHost host.text.toList := by
  obtain ⟨own, hown, hprinted⟩ := h.host
  rw [hhost] at hown
  rw [Option.some.inj hown]
  exact hprinted

/-- What is written of a query needs no escape there. -/
theorem query_assemble {scheme : String} {host : Option Host} {port : Option Nat} {path : UrlPath}
    {query fragment : Option (List Char)} {q : String}
    (h : (assemble true scheme host port path query fragment).query = some q) :
    ∀ c ∈ q.toList, IsUnescaped (escapedInQuery true) c := by
  obtain ⟨cs, _, rfl⟩ := Option.map_eq_some_iff.mp h
  exact fun c => isUnescaped_query

/-- The host that is read from an authority is a printed one. -/
theorem printed_of_hostAndPort? {scheme : String} {cs : List Char} {followed : Bool} {host : Host}
    {port : Option Nat} {rest : List Char}
    (h : hostAndPort? true scheme cs followed = some (host, port, rest)) :
    PrintedHost host.text.toList := by
  unfold hostAndPort? at h
  dsimp only at h
  split at h
  · cases h
  · simp only [if_true, Option.bind_eq_bind, Option.bind_eq_some_iff] at h
    obtain ⟨found, hfound, h⟩ := h
    split at h
    · simp only [Option.bind_eq_some_iff] at h
      obtain ⟨parsed, _, h⟩ := h
      cases h
      exact printed_of_specialHost? hfound
    · cases h
      exact printed_of_specialHost? hfound

/-- What is read from the authority on is written as a URL of the web. -/
theorem httpWritten_of_authorityAndPath? {scheme : String} {cs : List Char} {url : WebUrl}
    (h : authorityAndPath? true scheme cs = some url) : HttpWritten url := by
  unfold authorityAndPath? at h
  simp only [Option.bind_eq_bind, Option.bind_eq_some_iff] at h
  obtain ⟨⟨host, port, rest⟩, hhost, h⟩ := h
  cases h
  refine ⟨⟨host, rfl, printed_of_hostAndPort? hhost⟩, ?_, fun q => query_assemble⟩
  unfold assemble
  dsimp only
  split
  case isTrue => exact pathWritten_pathOf _
  case isFalse =>
    split
    case isTrue hnone => cases hnone.2
    case isFalse => exact pathWritten_pathOf _

/-- What follows an authority is a path with segments, which only another scheme than a special one
can leave out. -/
theorem exists_assemble_of_authorityAndPath? {special : Bool} {scheme : String} {cs : List Char}
    {url : WebUrl} (h : authorityAndPath? special scheme cs = some url) :
    ∃ host port path query fragment,
      url = assemble special scheme (some host) port path query fragment ∧
        (special = false ∧ path = .segments [] ∨ ∃ cs, path = pathOf special cs) := by
  unfold authorityAndPath? at h
  simp only [Option.bind_eq_bind, Option.bind_eq_some_iff] at h
  obtain ⟨⟨host, port, rest⟩, _, h⟩ := h
  cases h
  refine ⟨host, port, _, _, _, rfl, ?_⟩
  dsimp only
  split
  case isTrue => exact .inr ⟨_, rfl⟩
  case isFalse =>
    split
    case isTrue hnone => exact .inl ⟨by simpa using hnone.2, rfl⟩
    case isFalse => exact .inr ⟨_, rfl⟩

/-- A URL has the scheme that its authority was read for. -/
theorem scheme_of_authorityAndPath? {special : Bool} {scheme : String} {cs : List Char}
    {url : WebUrl} (h : authorityAndPath? special scheme cs = some url) : url.scheme = scheme := by
  obtain ⟨host, port, path, query, fragment, rfl, _⟩ := exists_assemble_of_authorityAndPath? h
  rfl

/-- The path of a file has segments. -/
theorem exists_assemble_of_filePath? {scheme : String} {cs : List Char} {url : WebUrl}
    (h : filePath? scheme cs = some url) : ∃ host items query fragment,
      url = assemble true scheme host none (.segments items) query fragment := by
  unfold filePath? at h
  dsimp only at h
  split at h
  · split at h
    · split at h
      · cases h
        exact ⟨none, _, _, _, rfl⟩
      · simp only [Option.bind_eq_bind, Option.bind_eq_some_iff] at h
        obtain ⟨host, _, h⟩ := h
        cases h
        exact ⟨some host, _, _, _, rfl⟩
    · cases h
      exact ⟨none, _, _, _, rfl⟩
  · cases h
    exact ⟨none, _, _, _, rfl⟩

/-- So has a URL of a file. -/
theorem scheme_of_filePath? {scheme : String} {cs : List Char} {url : WebUrl}
    (h : filePath? scheme cs = some url) : url.scheme = scheme := by
  obtain ⟨host, items, query, fragment, rfl⟩ := exists_assemble_of_filePath? h
  rfl

/-- The scheme of a URL is the one that it was read with. -/
theorem scheme_of_afterScheme? {scheme : String} {cs : List Char} {url : WebUrl}
    (h : afterScheme? scheme cs = some url) : url.scheme = scheme := by
  unfold afterScheme? at h
  split at h
  · exact scheme_of_filePath? h
  split at h
  · exact scheme_of_authorityAndPath? h
  split at h
  · exact scheme_of_authorityAndPath? h
  · cases h
    rfl
  · cases h
    rfl

/-- What is read as an `http` URL is read from its authority on. -/
theorem authorityAndPath?_of_http {text : String} {url : WebUrl} (h : parse? text = some url)
    (hscheme : url.scheme = "http") :
    ∃ cs, authorityAndPath? true "http" cs = some url := by
  unfold parse? at h
  dsimp only at h
  split at h
  · split at h
    · rw [scheme_of_afterScheme? h] at hscheme
      rw [hscheme] at h
      exact ⟨_, h⟩
    · cases h
  · cases h

/-- Whatever is read as an `http` URL is written like one. -/
theorem httpWritten_of_parse? {text : String} {url : WebUrl} (h : parse? text = some url)
    (hscheme : url.scheme = "http") : HttpWritten url := by
  obtain ⟨cs, hcs⟩ := authorityAndPath?_of_http h hscheme
  exact httpWritten_of_authorityAndPath? hcs

/-- The origin of an `http` URL tells its host and port. -/
theorem origin_of_http {url : WebUrl} {host : Host} (hscheme : url.scheme = "http")
    (hhost : url.host = some host) :
    url.origin = "http://" ++ authority host url.port := by
  unfold origin originText
  rw [hscheme, hhost]
  rfl

end WebUrl

end PagePreview
