import PagePreview.Http.Wire
import PagePreview.Proofs.Encoding
import PagePreview.Proofs.HeaderFields
import PagePreview.Proofs.PrintedHost
import PagePreview.Proofs.Words

/-!
# Fields of one connection

Some fields always concern one connection only, and the field `connection` lists others, between
commas, with blanks and tabs around them and in letters of either case. A value with a byte outside
visible ASCII is not read, and then none of its elements counts. Whatever a value that is read lists
goes neither to another server nor back to the client; the host's name, which another server is
always sent, is the server's own.
-/

namespace PagePreview

/-! ## Visible ASCII -/

/-- A visible ASCII character, a blank or a tab. -/
def IsVisible (b : UInt8) : Prop := (0x20 ≤ b ∧ b < 0x7F) ∨ b = 0x09

instance (b : UInt8) : Decidable (IsVisible b) := by
  unfold IsVisible
  infer_instance

/-- A header value that can be read as a text. -/
def AllVisible (value : Bytes) : Prop := ∀ b ∈ value, IsVisible b

instance (value : Bytes) : Decidable (AllVisible value) := List.decidableBAll IsVisible value

/-- A visible byte is one of ASCII. -/
theorem IsVisible.toNat_lt {b : UInt8} (h : IsVisible b) : b.toNat < 0x80 := by
  rcases h with ⟨-, h⟩ | rfl
  · exact Nat.lt_trans (UInt8.lt_iff_toNat_lt.mp h) (by decide)
  · decide

/-- The character with the number of a byte. -/
def charOf (b : UInt8) : Char := Char.ofNat b.toNat

/-- ASCII bytes are those of their characters. -/
theorem encode_ofList_charOf {bytes : Bytes} (h : ∀ b ∈ bytes, b.toNat < 0x80) :
    Utf8.encode (String.ofList (bytes.map charOf)) = bytes := by
  unfold Utf8.encode
  rw [String.toList_ofList]
  induction bytes with
  | nil => rfl
  | cons b rest ih =>
    have hb := (Utf8.Sequence.one (h b List.mem_cons_self)).encodes
    have hrest := ih fun x hx => h x (List.mem_cons_of_mem b hx)
    rw [List.map_cons, List.flatMap_cons, hrest]
    exact congrArg (· ++ rest) hb

/-- ASCII characters are those of their bytes. -/
theorem map_charOf_encode {text : String} (h : ∀ c ∈ text.toList, c.toNat < 0x80) :
    (Utf8.encode text).map charOf = text.toList := by
  unfold Utf8.encode
  generalize text.toList = cs at h
  induction cs with
  | nil => rfl
  | cons c rest ih =>
    have hc : (String.utf8EncodeChar c).map charOf = [c] := Ascii.forall_lt
      (P := fun c => (String.utf8EncodeChar c).map charOf = [c]) (by decide +kernel)
      (h c List.mem_cons_self)
    rw [List.flatMap_cons, List.map_append, hc, ih fun x hx => h x (List.mem_cons_of_mem c hx)]
    rfl

/-- A value is read as text if all its bytes are visible, blanks or tabs. -/
theorem visibleText?_eq_ite (value : Bytes) : visibleText? value =
    if AllVisible value then some (String.ofList (value.map charOf)) else none := by
  have htest : (value.all fun b => (0x20 ≤ b && b < 0x7F) || b == 0x09) = true ↔
      AllVisible value := by
    simp [AllVisible, IsVisible]
  unfold visibleText?
  simp only [htest]
  rfl

/-- A value is read as a text exactly if all of it is visible, and it is the text's bytes. -/
theorem visibleText?_eq_some_iff {value : Bytes} {text : String} :
    visibleText? value = some text ↔ AllVisible value ∧ Utf8.encode text = value := by
  have hbytes (h : AllVisible value) :
      Utf8.encode (String.ofList (value.map charOf)) = value :=
    encode_ofList_charOf fun b hb => (h b hb).toNat_lt
  rw [visibleText?_eq_ite, Option.ite_none_right_eq_some]
  constructor
  · rintro ⟨hvisible, hread⟩
    rw [← Option.some.inj hread]
    exact ⟨hvisible, hbytes hvisible⟩
  · rintro ⟨hvisible, hencode⟩
    refine ⟨hvisible, congrArg some (Utf8.encode_injective ?_)⟩
    rw [hencode]
    exact hbytes hvisible

/-! ## Elements of a value -/

/-- Blanks and tabs. -/
def AllSpace (bytes : Bytes) : Prop := ∀ b ∈ bytes, Wire.isSpace b

instance (bytes : Bytes) : Decidable (AllSpace bytes) :=
  List.decidableBAll (fun b => Wire.isSpace b = true) bytes

/-- A header value lists a name: one of its elements between commas is this name in letters of
either case, perhaps with blanks and tabs around it. -/
def Lists (value : Bytes) (name : String) : Prop :=
  ∃ item ∈ value.splitOn 0x2C, ∃ before word after, item = before ++ Utf8.encode word ++ after ∧
    AllSpace before ∧ AllSpace after ∧ headerName? word = some name

namespace Headers

/-- What is trimmed off is white space. -/
theorem exists_trim (cs : List Char) : ∃ before after, cs = before ++ trim cs ++ after ∧
    (∀ c ∈ before, Text.isBlank c = true) ∧ ∀ c ∈ after, Text.isBlank c = true := by
  refine ⟨cs.takeWhile Text.isBlank,
    ((cs.dropWhile Text.isBlank).reverse.takeWhile Text.isBlank).reverse, ?_, ?_, ?_⟩
  · unfold trim
    rw [List.append_assoc, ← List.reverse_append, List.takeWhile_append_dropWhile,
      List.reverse_reverse, List.takeWhile_append_dropWhile]
  · exact List.all_eq_true.mp List.all_takeWhile
  · intro c hc
    exact List.all_eq_true.mp List.all_takeWhile c (List.mem_reverse.mp hc)

/-- A word with white space around it is trimmed to the word. -/
theorem trim_append {before word after : List Char} (hb : ∀ c ∈ before, Text.isBlank c = true)
    (hw : ∀ c ∈ word, Text.isBlank c = false) (hne : word ≠ [])
    (ha : ∀ c ∈ after, Text.isBlank c = true) : trim (before ++ word ++ after) = word := by
  have hdrop : ∀ (cs more : List Char), cs ≠ [] → (∀ c ∈ cs, Text.isBlank c = false) →
      (cs ++ more).dropWhile Text.isBlank = cs ++ more := by
    intro cs more hcs hnot
    cases cs with
    | nil => exact absurd rfl hcs
    | cons c rest => exact List.dropWhile_cons_of_neg (by simp [hnot c List.mem_cons_self])
  have hback : ∀ c ∈ after.reverse, Text.isBlank c = true :=
    fun c hc => ha c (List.mem_reverse.mp hc)
  have hwords : ∀ c ∈ word.reverse, Text.isBlank c = false :=
    fun c hc => hw c (List.mem_reverse.mp hc)
  have hkept := hdrop word.reverse [] (by simpa using hne) hwords
  rw [List.append_nil] at hkept
  unfold trim
  rw [List.append_assoc, List.dropWhile_append_of_pos hb, hdrop word after hne hw,
    List.reverse_append, List.dropWhile_append_of_pos hback, hkept, List.reverse_reverse]

/-- The characters that names are written with are no white space. -/
theorem isBlank_of_isTokenChar {c : Char} (h : isTokenChar c = true) :
    c.toNat < 0x80 ∧ Text.isBlank c = false := by
  have hlt : c.toNat < 0x80 := by
    unfold isTokenChar at h
    rcases Bool.or_eq_true_iff.mp h with h | h
    · exact Ascii.toNat_lt_of_isAlphanumeric h
    · have hothers : "!#$%&\x27*+-.^_\x60|~".toList.all fun c => c.toNat < 0x80 := by decide
      have hc := List.all_eq_true.mp hothers c (List.mem_of_elem_eq_true h)
      exact of_decide_eq_true hc
  refine ⟨hlt, ?_⟩
  revert h
  exact Ascii.forall_lt (P := fun c => isTokenChar c = true → Text.isBlank c = false)
    (by decide) hlt

/-- A name is a token, and so has no white space. -/
theorem token_of_headerName? {word name : String} (h : headerName? word = some name) :
    word.toList ≠ [] ∧ ∀ c ∈ word.toList, c.toNat < 0x80 ∧ Text.isBlank c = false := by
  unfold headerName? at h
  by_cases htoken : isToken word = true
  · unfold isToken at htoken
    rw [Bool.and_eq_true, Bool.not_eq_true'] at htoken
    refine ⟨fun hnil => ?_, fun c hc => ?_⟩
    · rw [String.toList_eq_nil_iff.mp hnil] at htoken
      exact absurd htoken.1 (by decide)
    · exact isBlank_of_isTokenChar (List.all_eq_true.mp htoken.2 c hc)
  · rw [if_neg htoken] at h
    cases h

/-- Of the visible bytes, the blank and the tab are white space. -/
theorem isSpace_iff_isBlank {b : UInt8} (h : IsVisible b) :
    Wire.isSpace b = true ↔ Text.isBlank (charOf b) = true := by
  have hall : ∀ n < 0x80, IsVisible (UInt8.ofNat n) →
      (Wire.isSpace (UInt8.ofNat n) = true ↔ Text.isBlank (Char.ofNat n) = true) := by decide
  have hb := hall b.toNat h.toNat_lt
  rw [UInt8.ofNat_toNat] at hb
  exact hb h

/-- The blank and the tab are blanks of a text. -/
theorem isBlank_of_isSpace {b : UInt8} (h : Wire.isSpace b = true) :
    Text.isBlank (charOf b) = true := by
  have hb : b = 0x20 ∨ b = 0x09 := by simpa [Wire.isSpace] using h
  rcases hb with rfl | rfl <;> decide

/-- The name in an element that can be read is what stands between blanks and tabs. -/
theorem headerName?_trim_iff {item : Bytes} (h : AllVisible item) {name : String} :
    headerName? (String.ofList (trim (item.map charOf))) = some name ↔
      ∃ before word after, item = before ++ Utf8.encode word ++ after ∧
        AllSpace before ∧ AllSpace after ∧ headerName? word = some name := by
  have hblank : ∀ {bytes : Bytes}, AllSpace bytes →
      ∀ c ∈ bytes.map charOf, Text.isBlank c = true := by
    intro bytes hspace c hc
    obtain ⟨b, hb, rfl⟩ := List.mem_map.mp hc
    exact isBlank_of_isSpace (hspace b hb)
  have hspace : ∀ {bytes : Bytes}, (∀ b ∈ bytes, b ∈ item) →
      (∀ c ∈ bytes.map charOf, Text.isBlank c = true) → AllSpace bytes := by
    intro bytes hbytes hc b hb
    exact (isSpace_iff_isBlank (h b (hbytes b hb))).mpr (hc _ (List.mem_map_of_mem hb))
  constructor
  · intro hname
    obtain ⟨front, back, hcs, hfront, hback⟩ := exists_trim (item.map charOf)
    obtain ⟨rest, after, hitem, hrest, rfl⟩ := List.map_eq_append_iff.mp hcs
    obtain ⟨before, word, rfl, rfl, hword⟩ := List.map_eq_append_iff.mp hrest
    refine ⟨before, String.ofList (word.map charOf), after, ?_, ?_, ?_, ?_⟩
    · rw [encode_ofList_charOf fun b hb => (h b ?_).toNat_lt]
      · exact hitem
      · rw [hitem]
        exact List.mem_append_left _ (List.mem_append_right _ hb)
    · refine hspace (fun b hb => ?_) hfront
      rw [hitem]
      exact List.mem_append_left _ (List.mem_append_left _ hb)
    · refine hspace (fun b hb => ?_) hback
      rw [hitem]
      exact List.mem_append_right _ hb
    · rw [hword]
      exact hname
  · rintro ⟨before, word, after, rfl, hbefore, hafter, hname⟩
    obtain ⟨hne, hchars⟩ := token_of_headerName? hname
    rw [List.map_append, List.map_append, map_charOf_encode fun c hc => (hchars c hc).1,
      trim_append (hblank hbefore) (fun c hc => (hchars c hc).2) hne (hblank hafter),
      String.ofList_toList]
    exact hname

/-- Commas are cut at before or after reading. -/
theorem splitWhere_charOf (value : Bytes) :
    Text.splitWhere (· == ',') (value.map charOf) = (value.splitOn 0x2C).map (List.map charOf) := by
  have hcomma : ∀ n < 256, (Char.ofNat n == ',') = (UInt8.ofNat n == 0x2C) := by decide +kernel
  have htest : (fun b : UInt8 => charOf b == ',') = (· == 0x2C) := by
    funext b
    have hb := hcomma b.toNat b.toNat_lt
    rw [UInt8.ofNat_toNat] at hb
    exact hb
  rw [Text.splitWhere_map, htest, Text.splitWhere_eq_splitOnP]
  rfl

/-- A value that can be read lists the names between its commas. -/
theorem mem_items_iff {value : Bytes} (h : AllVisible value) {name : String} :
    name ∈ (Text.splitWhere (· == ',') (value.map charOf)).filterMap
        (fun item => headerName? (String.ofList (trim item))) ↔ Lists value name := by
  have hitem : ∀ item ∈ value.splitOn 0x2C, AllVisible item := by
    intro item hitem b hb
    rw [List.splitOn, ← Text.splitWhere_eq_splitOnP] at hitem
    exact h b (Text.mem_of_mem_splitWhere hitem hb)
  rw [splitWhere_charOf, List.mem_filterMap]
  constructor
  · rintro ⟨chars, hchars, hname⟩
    obtain ⟨item, hmem, rfl⟩ := List.mem_map.mp hchars
    exact ⟨item, hmem, (headerName?_trim_iff (hitem item hmem)).mp hname⟩
  · rintro ⟨item, hmem, hname⟩
    exact ⟨_, List.mem_map_of_mem hmem, (headerName?_trim_iff (hitem item hmem)).mpr hname⟩

/-- The names that are listed are those that values which can be read list. -/
theorem mem_listedNames_iff {hs : Headers} {name : String} :
    name ∈ listedNames hs ↔
      ∃ value ∈ values "connection" hs, AllVisible value ∧ Lists value name := by
  unfold listedNames
  rw [List.mem_flatMap]
  constructor
  · rintro ⟨text, htext, hlisted⟩
    obtain ⟨value, hvalue, hread⟩ := List.mem_filterMap.mp htext
    rw [visibleText?_eq_ite, Option.ite_none_right_eq_some] at hread
    obtain ⟨hvisible, hread⟩ := hread
    rw [← Option.some.inj hread, String.toList_ofList] at hlisted
    exact ⟨value, hvalue, hvisible, (mem_items_iff hvisible).mp hlisted⟩
  · rintro ⟨value, hvalue, hvisible, hlists⟩
    have hread := visibleText?_eq_ite value
    rw [if_pos hvisible] at hread
    refine ⟨_, List.mem_filterMap.mpr ⟨value, hvalue, hread⟩, ?_⟩
    rw [String.toList_ofList]
    exact (mem_items_iff hvisible).mpr hlists

/-! ## Fields that do not outlast the connection -/

/-- Fields with this name concern one connection only: it is one of the names that always do, or a
value of `connection` that can be read lists it. -/
def IsDropped (hs : Headers) (name : String) : Prop :=
  name ∈ hopByHop ∨ ∃ value ∈ values "connection" hs, AllVisible value ∧ Lists value name

/-- A field is dropped if its name is listed or is one of those that always are. -/
theorem isDropped_iff {hs : Headers} {name : String} :
    hs.IsDropped name ↔ name ∈ listedNames hs ∨ name ∈ hopByHop := by
  unfold IsDropped
  rw [mem_listedNames_iff]
  exact or_comm

variable {hs : Headers} {name : String}

/-- Nothing is left of a field that is dropped. -/
theorem values_stripHopByHop_of_isDropped (h : hs.IsDropped name) :
    values name (stripHopByHop hs) = [] := by
  rw [values_stripHopByHop, if_pos (isDropped_iff.mp h)]

/-- All is left of a field that is not dropped. -/
theorem values_stripHopByHop_of_not_isDropped (h : ¬hs.IsDropped name) :
    values name (stripHopByHop hs) = values name hs := by
  rw [values_stripHopByHop, if_neg (mt isDropped_iff.mpr h)]

/-- The fields that are left are those that are not dropped. -/
theorem mem_stripHopByHop_iff {field : Header} :
    field ∈ stripHopByHop hs ↔ field ∈ hs ∧ ¬hs.IsDropped field.name := by
  rw [mem_stripHopByHop, isDropped_iff, not_or]

end Headers

open Headers

/-- What is sent to another server are fields that outlast the connection, and its own name. -/
theorem Request.mem_prepare {r : Request} {t : ProxyTarget} {out : Outgoing}
    (h : r.prepare t = .ok out) {field : Header} (hf : field ∈ out.headers) :
    field = ⟨"host", Utf8.encode t.authority⟩ ∨
      field ∈ r.headers ∧ ¬r.headers.IsDropped field.name := by
  unfold prepare at h
  split at h
  · cases h
  · dsimp only at h
    split at h
    · cases h
      rcases mem_set.mp hf with hf | ⟨hf, -⟩
      · exact .inl hf
      · exact .inr (mem_stripHopByHop_iff.mp hf)
    · cases h

/-- A location is only put in the place of one that outlasts the connection. -/
theorem Response.not_isDropped_of_clientLocation? {x : Response} {t : ProxyTarget}
    {host : Option String} {seen : Bytes}
    (h : clientLocation? x.status (stripHopByHop x.headers) t host = some seen) :
    ¬x.headers.IsDropped "location" := by
  intro hdropped
  have hnone := values_eq_nil_iff.mp (values_stripHopByHop_of_isDropped hdropped)
  unfold clientLocation? at h
  split at h
  · rw [hnone] at h
    cases h
  · cases h

/-- What a client gets are fields that outlast the connection, the location perhaps with another
value. -/
theorem Response.mem_relayed {x : Response} {t : ProxyTarget} {host : Option String}
    {field : Header} (hf : field ∈ (x.relayed t host).headers) :
    ¬x.headers.IsDropped field.name := by
  unfold relayed at hf
  dsimp only at hf
  cases hseen : clientLocation? x.status (stripHopByHop x.headers) t host with
  | none =>
    rw [hseen] at hf
    exact (mem_stripHopByHop_iff.mp hf).2
  | some seen =>
    rw [hseen] at hf
    rcases mem_set.mp hf with rfl | ⟨hf, -⟩
    · exact not_isDropped_of_clientLocation? hseen
    · exact (mem_stripHopByHop_iff.mp hf).2

/-- Whatever the fields are, one of them outlasts the connection exactly if it is not one of those
that never do and no value of `connection` that can be read lists it; what only other values list
outlasts it as well. No field that a value which can be read lists is sent to another server with
these fields, but for the server's name, nor to the client. -/
theorem listed_fields_do_not_cross (hs : Headers) :
    (∀ field, field ∈ stripHopByHop hs ↔ field ∈ hs ∧ field.name ∉ hopByHop ∧
      ∀ value ∈ values "connection" hs, AllVisible value → ¬Lists value field.name) ∧
    ∀ value ∈ values "connection" hs, AllVisible value →
      (∀ (r : Request) (t : ProxyTarget) (out : Outgoing), r.headers = hs → r.prepare t = .ok out →
        ∀ field ∈ out.headers,
          Lists value field.name → field = ⟨"host", Utf8.encode t.authority⟩) ∧
      ∀ (x : Response) (t : ProxyTarget) (host : Option String), x.headers = hs →
        ∀ field ∈ (x.relayed t host).headers, ¬Lists value field.name := by
  constructor
  · intro field
    rw [mem_stripHopByHop_iff]
    unfold IsDropped
    rw [not_or]
    simp only [not_exists, not_and]
  · intro value hvalue hvisible
    have hlisted : ∀ {name}, Lists value name → hs.IsDropped name :=
      fun hlists => .inr ⟨value, hvalue, hvisible, hlists⟩
    constructor
    · rintro r t out rfl hout field hfield hlists
      rcases Request.mem_prepare hout hfield with hhost | ⟨-, hkept⟩
      · exact hhost
      · exact absurd (hlisted hlists) hkept
    · rintro x t host rfl field hfield hlists
      exact Response.mem_relayed hfield (hlisted hlists)

/-- A field that `connection` lists in capitals, behind a tab, and one that it does not list. -/
def taggedFields : Headers :=
  [⟨"connection", Utf8.encode "close,\tX-Tag "⟩, ⟨"x-tag", [49]⟩, ⟨"x-keep", [50]⟩]

/-- A request with these fields. -/
def taggedRequest : Request := ⟨"GET", ⟨none, "", "/a", none⟩, taggedFields, [], none⟩

/-- A server to ask. -/
def plainTarget : ProxyTarget := ⟨"http://[::1]:3000", "[::1]:3000", "/d", none⟩

/-- The field that is listed neither stays nor crosses, in either direction. -/
theorem listed_fields_do_not_cross_tagged :
    Lists (Utf8.encode "close,\tX-Tag ") "x-tag" ∧
    ⟨"x-tag", [49]⟩ ∉ stripHopByHop taggedFields ∧
    (∃ out, taggedRequest.prepare plainTarget = .ok out ∧ ⟨"x-tag", [49]⟩ ∉ out.headers ∧
      ⟨"x-keep", [50]⟩ ∈ out.headers) ∧
    ⟨"x-tag", [49]⟩ ∉ (Response.relayed ⟨200, taggedFields, []⟩ plainTarget none).headers := by
  obtain ⟨hstrip, hcross⟩ := listed_fields_do_not_cross taggedFields
  have hvalue : Utf8.encode "close,\tX-Tag " ∈ values "connection" taggedFields := by
    decide +kernel
  have hvisible : AllVisible (Utf8.encode "close,\tX-Tag ") := by decide +kernel
  have hlists : Lists (Utf8.encode "close,\tX-Tag ") "x-tag" :=
    ⟨Utf8.encode "\tX-Tag ", by decide +kernel, Utf8.encode "\t", "X-Tag", Utf8.encode " ",
      by decide +kernel, by decide +kernel, by decide +kernel, by decide +kernel⟩
  have hout : taggedRequest.prepare plainTarget =
      .ok ⟨"GET", ⟨some "http", "[::1]:3000", "/d", none⟩, "HTTP/1.1",
        [⟨"x-keep", [50]⟩, ⟨"host", Utf8.encode "[::1]:3000"⟩], []⟩ := rfl
  obtain ⟨hrequest, hresponse⟩ := hcross _ hvalue hvisible
  refine ⟨hlists, ?_, ⟨_, hout, ?_, by decide +kernel⟩, ?_⟩
  · intro hmem
    obtain ⟨-, -, hunlisted⟩ := (hstrip _).mp hmem
    exact hunlisted _ hvalue hvisible hlists
  · intro hmem
    have hhost := hrequest _ _ _ rfl hout _ hmem hlists
    exact absurd (congrArg Header.name hhost) (by decide)
  · intro hmem
    exact hresponse _ _ _ rfl _ hmem hlists

/-- A value of `connection` that lists a field and goes on with a byte outside ASCII. -/
def unreadValue : Bytes := Utf8.encode "x-secret," ++ [0xFF]

/-- The value that is not read lists a field. -/
theorem lists_unreadValue : Lists unreadValue "x-secret" :=
  ⟨Utf8.encode "x-secret", by decide +kernel, [], "x-secret", [], by decide +kernel, by decide,
    by decide, by decide +kernel⟩

/-- The field beside this value. -/
def shieldedFields : Headers :=
  [⟨"connection", unreadValue⟩, ⟨"x-secret", [49]⟩, ⟨"x-keep", [50]⟩]

/-- One byte outside ASCII makes the whole value unread, and the field that it lists is sent. -/
theorem unread_value_shields_what_it_lists :
    unreadValue ∈ values "connection" shieldedFields ∧ Lists unreadValue "x-secret" ∧
    ⟨"x-secret", [49]⟩ ∈ stripHopByHop shieldedFields ∧
    ∃ out, Request.prepare ⟨"GET", ⟨none, "", "/", none⟩, shieldedFields, [], none⟩ plainTarget =
      .ok out ∧ ⟨"x-secret", [49]⟩ ∈ out.headers := by
  have hout : Request.prepare ⟨"GET", ⟨none, "", "/", none⟩, shieldedFields, [], none⟩
      plainTarget = .ok ⟨"GET", ⟨some "http", "[::1]:3000", "/d", none⟩, "HTTP/1.1",
        [⟨"x-secret", [49]⟩, ⟨"x-keep", [50]⟩, ⟨"host", Utf8.encode "[::1]:3000"⟩], []⟩ := rfl
  exact ⟨by decide +kernel, lists_unreadValue, by decide +kernel, _, hout, by decide +kernel⟩

end PagePreview
