import PagePreview.Proofs.PrintedUrl
import PagePreview.Proofs.TriedTargets

/-!
# Placeholders in the name of a server

Whether a template for an `http` URL is kept is decided by the part of it that names the server. If
no placeholder stands there, a trial with a digit for each placeholder tells what happens for all
groups. If one does, some groups always give a target, as a group may hold a whole server. The trial
may still fail, since a digit is not good everywhere in the name of a server: a name that ends in a
number has to be an address. So rules are dropped that could work.
-/

namespace PagePreview

/-! ## Where the server is named -/

/-- A list is cut from behind at the last place where a test fails. -/
theorem rdropWhile_append_cons {p : Char → Bool} {d : Char} (hd : p d = false)
    (xs ys : List Char) : (xs ++ d :: ys).rdropWhile p = xs ++ d :: ys.rdropWhile p := by
  induction ys using List.reverseRecOn with
  | nil => exact List.rdropWhile_concat_neg p xs d (by rw [hd]; exact Bool.false_ne_true)
  | append_singleton ys y ih =>
    rw [← List.cons_append, ← List.append_assoc]
    by_cases hy : p y
    · rw [List.rdropWhile_concat_pos p _ y hy, List.rdropWhile_concat_pos p _ y hy, ih]
    · rw [List.rdropWhile_concat_neg p _ y hy, List.rdropWhile_concat_neg p _ y hy,
        List.append_assoc, List.cons_append]

/-- What is filtered out is dropped from behind as well, so the order does not matter. -/
theorem filter_rdropWhile {p q : Char → Bool} (h : ∀ c, q c = false → p c = true)
    (cs : List Char) : (cs.rdropWhile p).filter q = (cs.filter q).rdropWhile p := by
  induction cs using List.reverseRecOn with
  | nil => rfl
  | append_singleton cs c ih =>
    by_cases hp : p c
    · rw [List.rdropWhile_concat_pos p _ c hp, ih, List.filter_append]
      cases hq : q c with
      | true =>
        rw [List.filter_cons_of_pos hq, List.filter_nil, List.rdropWhile_concat_pos p _ c hp]
      | false =>
        rw [List.filter_cons_of_neg (by rw [hq]; exact Bool.false_ne_true), List.filter_nil,
          List.append_nil]
    · have hq : q c = true := by
        by_contra hq
        exact hp (h c (Bool.eq_false_iff.mpr hq))
      rw [List.rdropWhile_concat_neg p _ c hp, List.filter_append, List.filter_cons_of_pos hq,
        List.filter_nil, List.rdropWhile_concat_neg p _ c hp]

namespace WebUrl

/-- A character that is left out of a URL wherever it stands. -/
def isIgnored (c : Char) : Bool := c == '\t' || c == '\n' || c == '\r'

/-- A character that ends the name of a server. -/
def endsServer (c : Char) : Bool := isSlash true c || c == '?' || c == '#'

/-- What follows the scheme and two slashes, without what is ignored inside it and at its end. -/
def tidy (cs : List Char) : List Char :=
  (cs.filter fun c => !isIgnored c).rdropWhile isOuterBlank

/-- The name of the server in what follows the scheme and two slashes; further slashes are passed
over. -/
def serverText (cs : List Char) : List Char :=
  ((tidy cs).dropWhile (isSlash true)).takeWhile fun c => !endsServer c

/-- The server that is named in what follows the scheme `http` and two slashes. -/
def server? (cs : List Char) : Option (Host × Option Nat × List Char) :=
  hostAndPort? true "http" (serverText cs) true

/-- Cleaning leaves the scheme in front. -/
theorem clean_http (cs : List Char) :
    clean ("http://".toList ++ cs) = "http://".toList ++ tidy cs := by
  have hfront : ("http://".toList ++ cs).dropWhile isOuterBlank = "http:/".toList ++ '/' :: cs :=
    rfl
  have hignored : ∀ c, (!isIgnored c) = false → isOuterBlank c = true := by
    intro c hc
    simp only [isIgnored, Bool.not_eq_false', Bool.or_eq_true, beq_iff_eq] at hc
    rcases hc with (rfl | rfl) | rfl <;> decide
  have hfilter : (fun c => c != '\t' && c != '\n' && c != '\r') = fun c => !isIgnored c := by
    funext c
    simp [isIgnored, bne]
  rw [clean_eq_filter, hfront, rdropWhile_append_cons (by decide), hfilter, List.filter_append,
    List.filter_cons_of_pos (by decide), filter_rdropWhile hignored]
  rfl

/-- If the authority is not followed by anything, this matters only where the host is empty. -/
theorem hostAndPort?_followed (scheme : String) (cs : List Char) (followed : Bool) :
    hostAndPort? true scheme cs followed = hostAndPort? true scheme cs true := by
  unfold hostAndPort?
  simp

/-- What follows the server never keeps an `http` URL from being read. -/
theorem authorityAndPath?_isSome (cs : List Char) :
    (authorityAndPath? true "http" cs).isSome =
      (hostAndPort? true "http" (cs.takeWhile fun c => !endsServer c) true).isSome := by
  have htake : ((cs.takeWhile (· != '#')).takeWhile (· != '?')).takeWhile
      (fun c => !isSlash true c) = cs.takeWhile fun c => !endsServer c := by
    rw [List.takeWhile_takeWhile, List.takeWhile_takeWhile]
    congr 1
    funext c
    rw [Bool.eq_iff_iff]
    simp [endsServer, and_assoc]
  unfold authorityAndPath? cutTail
  simp only [List.span_eq_takeWhile_dropWhile]
  rw [htake, hostAndPort?_followed]
  cases hostAndPort? true "http" (cs.takeWhile fun c => !endsServer c) true <;> rfl

/-- A text with the scheme `http` and two slashes is read exactly if a server is named then. -/
theorem exists_parse?_iff {text : String} {cs : List Char}
    (htext : text.toList = "http://".toList ++ cs) :
    (∃ url, parse? text = some url ∧ url.scheme = "http") ↔ (server? cs).isSome := by
  have hclean : clean text.toList = "http".toList ++ ':' :: ("//".toList ++ tidy cs) := by
    rw [htext, clean_http]
    rfl
  have hread := parse?_special (by decide) hclean
  have hslashes : ("//".toList ++ tidy cs).dropWhile (isSlash true) =
      (tidy cs).dropWhile (isSlash true) := rfl
  rw [hslashes] at hread
  have hsome := authorityAndPath?_isSome ((tidy cs).dropWhile (isSlash true))
  unfold server? serverText
  rw [← hsome, ← hread, Option.isSome_iff_exists]
  constructor
  · rintro ⟨url, hurl, -⟩
    exact ⟨url, hurl⟩
  · rintro ⟨url, hurl⟩
    exact ⟨url, hurl, scheme_of_authorityAndPath? (hread.symm.trans hurl)⟩

/-- What precedes an at sign is passed over, whatever it is, so an address after it is read. -/
theorem hostAndPort?_address (user : List Char) :
    hostAndPort? true "http" (user ++ "@[::]".toList) true =
      some (.ipv6 [0, 0, 0, 0, 0, 0, 0, 0], none, []) := by
  have hat : '@' ∈ user ++ "@[::]".toList := List.mem_append_right _ (by decide)
  have hhost : ((user ++ "@[::]".toList).reverse.takeWhile (· != '@')).reverse = "[::]".toList := by
    rw [List.reverse_append]
    rfl
  have hdropped : (dropUserInfo (user ++ "@[::]".toList)).2 = "[::]".toList := by
    unfold dropUserInfo
    rw [if_pos (List.contains_iff_mem.mpr hat)]
    exact hhost
  have hcut : cutHost false "[::]".toList = ("[::]".toList, []) := by decide
  have haddress : specialHost? "[::]".toList = some (.ipv6 [0, 0, 0, 0, 0, 0, 0, 0]) := by
    decide +kernel
  unfold hostAndPort?
  dsimp only
  rw [hdropped, hcut, if_pos rfl, haddress]
  rfl

end WebUrl

namespace Template

open WebUrl (isIgnored endsServer serverText server?)

/-! ## The part of a template that names the server -/

/-- A piece that may leave something in a URL: a number that is too large stands for nothing. -/
def Piece.counts : Piece → Bool
  | .plain c => !isIgnored c
  | .group n => decide (n < wordLimit)

/-- A slash, of either kind. -/
def Piece.isSlash : Piece → Bool
  | .plain c => WebUrl.isSlash true c
  | .group _ => false

/-- A character that ends the name of a server. -/
def Piece.endsServer : Piece → Bool
  | .plain c => WebUrl.endsServer c
  | .group _ => false

/-- A placeholder. -/
def Piece.isGroup : Piece → Bool
  | .plain _ => false
  | .group _ => true

/-- The pieces that name the server, in the rest of a template after the scheme and two slashes. -/
def serverPieces (rest : String) : List Piece :=
  (((pieces rest.toList).filter Piece.counts).dropWhile Piece.isSlash).takeWhile
    fun p => !p.endsServer

/-- A placeholder stands in the name of the server. -/
def AsksServer (rest : String) : Prop := ∃ p ∈ serverPieces rest, p.isGroup = true

instance (rest : String) : Decidable (AsksServer rest) :=
  inferInstanceAs (Decidable (∃ p ∈ serverPieces rest, _))

/-- A template is filled piece by piece. -/
theorem toList_fill (template : String) (text : Nat → List Char) :
    (fill template text).toList = (pieces template.toList).flatMap (Piece.filled text) := by
  rw [fill_eq, String.toList_ofList]

/-- A piece in the place of the server counts, and does not end it. -/
theorem counts_of_mem_serverPieces {rest : String} {p : Piece} (h : p ∈ serverPieces rest) :
    p.counts = true ∧ p.endsServer = false := by
  have hkept := (List.takeWhile_sublist _).subset h
  have hcounted := (List.dropWhile_sublist _).subset hkept
  exact ⟨(List.mem_filter.mp hcounted).2, by simpa using List.mem_takeWhile_imp h⟩

/-- The scheme and the slashes stand for themselves. -/
theorem toList_fill_http (rest : String) (text : Nat → List Char) :
    (fill ("http://" ++ rest) text).toList = "http://".toList ++ (fill rest text).toList := by
  have hscan : scan none ("http://".toList ++ rest.toList) =
      "http://".toList.map .plain ++ scan none rest.toList :=
    scan_literal (by decide) nofun
  rw [toList_fill, toList_fill, String.toList_append]
  unfold pieces
  rw [hscan, List.flatMap_append, flatMap_filled_plain]

/-- The groups without what a URL ignores. -/
def significant (text : Nat → List Char) (n : Nat) : List Char :=
  (text n).filter fun c => !isIgnored c

/-- Only the pieces that count matter, and what is ignored may be left out of the groups as well. -/
theorem filter_filled (ps : List Piece) (text : Nat → List Char) :
    (ps.flatMap (Piece.filled text)).filter (fun c => !isIgnored c) =
      (ps.filter Piece.counts).flatMap (Piece.filled (significant text)) := by
  induction ps with
  | nil => rfl
  | cons p ps ih =>
    rw [List.flatMap_cons, List.filter_append, ih]
    cases hp : p.counts with
    | true =>
      rw [List.filter_cons_of_pos hp, List.flatMap_cons]
      congr 1
      cases p with
      | plain c => exact List.filter_cons_of_pos hp
      | group n =>
        have hn : n < wordLimit := of_decide_eq_true hp
        simp only [Piece.filled, if_pos hn, significant]
    | false =>
      rw [List.filter_cons_of_neg (Bool.eq_false_iff.mp hp)]
      have hnone : (p.filled text).filter (fun c => !isIgnored c) = [] := by
        cases p with
        | plain c => exact List.filter_cons_of_neg (Bool.eq_false_iff.mp hp)
        | group n =>
          have hn : ¬n < wordLimit := of_decide_eq_false hp
          simp only [Piece.filled, if_neg hn, List.filter_nil]
      rw [hnone, List.nil_append]

/-- Pieces that are all plain characters. -/
theorem exists_map_plain {P : Char → Prop} {ps : List Piece}
    (h : ∀ p ∈ ps, ∃ c, P c ∧ p = .plain c) :
    ∃ cs : List Char, (∀ c ∈ cs, P c) ∧ ps = cs.map .plain := by
  induction ps with
  | nil => exact ⟨[], nofun, rfl⟩
  | cons p ps ih =>
    obtain ⟨⟨c, hc, rfl⟩, hps⟩ := List.forall_mem_cons.mp h
    obtain ⟨cs, hcs, rfl⟩ := ih hps
    exact ⟨c :: cs, List.forall_mem_cons.mpr ⟨hc, hcs⟩, rfl⟩

/-! ## The name of the server in what is filled in -/

/-- A template is cut around the pieces that name the server: slashes come before them, and what
comes after them begins with the end of the name. -/
theorem exists_around_server (rest : String) :
    ∃ (slashes : List Char) (after : List Piece),
      (pieces rest.toList).filter Piece.counts =
        slashes.map .plain ++ (serverPieces rest ++ after) ∧
      (∀ c ∈ slashes, WebUrl.isSlash true c = true) ∧
      ∀ p ∈ after.head?, ∃ d, p = .plain d ∧ endsServer d = true ∧
        (serverPieces rest = [] → WebUrl.isSlash true d = false) := by
  generalize hps : (pieces rest.toList).filter Piece.counts = ps
  have hserver : serverPieces rest =
      (ps.dropWhile Piece.isSlash).takeWhile fun p => !p.endsServer := by
    unfold serverPieces
    rw [hps]
  have hslash : ∀ p ∈ ps.takeWhile Piece.isSlash,
      ∃ c, WebUrl.isSlash true c = true ∧ p = .plain c := by
    intro p hp
    have hp := List.mem_takeWhile_imp hp
    cases p with
    | plain c => exact ⟨c, hp, rfl⟩
    | group n => cases hp
  obtain ⟨slashes, hslashes, hplain⟩ := exists_map_plain hslash
  refine ⟨slashes, (ps.dropWhile Piece.isSlash).dropWhile fun p => !p.endsServer, ?_, hslashes, ?_⟩
  · rw [hserver, List.takeWhile_append_dropWhile, ← hplain, List.takeWhile_append_dropWhile]
  · intro p hp
    have hends : p.endsServer = true := by
      simpa using Text.eq_false_of_mem_head?_dropWhile hp
    cases p with
    | group n => cases hends
    | plain d =>
      refine ⟨d, rfl, hends, fun hnone => ?_⟩
      -- Without a name of the server the first piece after the slashes ends it.
      have hall := List.takeWhile_append_dropWhile (p := fun p : Piece => !p.endsServer)
        (l := ps.dropWhile Piece.isSlash)
      rw [← hserver, hnone, List.nil_append] at hall
      rw [hall] at hp
      have hnot : (Piece.plain d).isSlash = false := Text.eq_false_of_mem_head?_dropWhile hp
      exact hnot

/-- What is read as the name of the server, between slashes and a character that ends it. -/
theorem serverText_eq {cs slashes server after : List Char} {d : Char}
    (hcs : (cs.filter fun c => !isIgnored c) = slashes ++ (server ++ d :: after))
    (hslashes : ∀ c ∈ slashes, WebUrl.isSlash true c = true)
    (hserver : ∀ c ∈ server, endsServer c = false) (hd : endsServer d = true)
    (hfirst : server = [] → WebUrl.isSlash true d = false) : serverText cs = server := by
  have hdark : WebUrl.isOuterBlank d = false := by
    unfold endsServer WebUrl.isSlash at hd
    simp only [Bool.true_and, Bool.or_eq_true, beq_iff_eq] at hd
    rcases hd with ((rfl | rfl) | rfl) | rfl <;> decide
  have htidy : WebUrl.tidy cs =
      slashes ++ (server ++ d :: after.rdropWhile WebUrl.isOuterBlank) := by
    unfold WebUrl.tidy
    rw [hcs, ← List.append_assoc, rdropWhile_append_cons hdark, List.append_assoc]
  have hstop : ∀ c ∈ (server ++ d :: after.rdropWhile WebUrl.isOuterBlank).head?,
      WebUrl.isSlash true c = false := by
    cases server with
    | nil =>
      rintro _ ⟨⟩
      exact hfirst rfl
    | cons first server =>
      rintro _ ⟨⟩
      have hname := hserver first List.mem_cons_self
      unfold endsServer at hname
      simp only [Bool.or_eq_false_iff] at hname
      exact hname.1.1
  have hend : ∀ c ∈ (d :: after.rdropWhile WebUrl.isOuterBlank).head?,
      (!endsServer c) = false := by
    rintro _ ⟨⟩
    rw [hd]
    rfl
  unfold serverText
  rw [htidy, (Text.takeWhile_dropWhile_append hslashes hstop).2]
  exact (Text.takeWhile_dropWhile_append (fun c hc => by rw [hserver c hc]; rfl) hend).1

/-- The cut of a template is one of what it is filled in with. -/
theorem filter_fill {rest : String} {slashes : List Char} {after : List Piece}
    (haround : (pieces rest.toList).filter Piece.counts =
      slashes.map .plain ++ (serverPieces rest ++ after)) (text : Nat → List Char) :
    ((fill rest text).toList.filter fun c => !isIgnored c) =
      slashes ++ ((serverPieces rest).flatMap (Piece.filled (significant text)) ++
        after.flatMap (Piece.filled (significant text))) := by
  rw [toList_fill, filter_filled, haround, List.flatMap_append, List.flatMap_append,
    flatMap_filled_plain]

/-- Without a placeholder in it, the name of the server is the same for all groups. -/
theorem serverText_fill {rest : String} (h : ¬AsksServer rest) (text text' : Nat → List Char) :
    serverText (fill rest text).toList = serverText (fill rest text').toList := by
  obtain ⟨slashes, after, haround, hslashes, hafter⟩ := exists_around_server rest
  have hplain : ∀ p ∈ serverPieces rest, ∃ c, endsServer c = false ∧ p = .plain c := by
    intro p hp
    cases p with
    | plain c => exact ⟨c, (counts_of_mem_serverPieces hp).2, rfl⟩
    | group n => exact absurd ⟨_, hp, rfl⟩ h
  obtain ⟨server, hserver, hpieces⟩ := exists_map_plain hplain
  have hfiltered := filter_fill haround
  rw [hpieces] at hfiltered
  simp only [flatMap_filled_plain] at hfiltered
  cases after with
  | nil =>
    unfold serverText WebUrl.tidy
    rw [hfiltered, hfiltered]
    rfl
  | cons p after =>
    obtain ⟨d, rfl, hd, hfirst⟩ := hafter p rfl
    have hsame : ∀ text : Nat → List Char, serverText (fill rest text).toList = server := by
      intro text
      refine serverText_eq (hfiltered text) hslashes hserver hd fun hnone => hfirst ?_
      rw [hpieces, hnone]
      rfl
    rw [hsame, hsame]

/-- Only characters stand before the first placeholder in the name of the server. -/
theorem exists_first_placeholder {rest : String} (h : AsksServer rest) :
    ∃ (user : List Char) (n : Nat) (more : List Piece),
      serverPieces rest = user.map .plain ++ .group n :: more ∧
      (∀ c ∈ user, endsServer c = false) ∧ n < wordLimit := by
  obtain ⟨p, hp⟩ := Option.isSome_iff_exists.mp (List.find?_isSome.mpr h)
  obtain ⟨hgroup, before, more, hpieces, hbefore⟩ := List.find?_eq_some_iff_append.mp hp
  have hmem : ∀ q ∈ before ++ p :: more, q.counts = true ∧ q.endsServer = false := by
    rw [← hpieces]
    exact fun q => counts_of_mem_serverPieces
  obtain ⟨hchars, hmore⟩ := List.forall_mem_append.mp hmem
  have hplain : ∀ p ∈ before, ∃ c, endsServer c = false ∧ p = .plain c := by
    intro p hp
    cases p with
    | plain c => exact ⟨c, (hchars _ hp).2, rfl⟩
    | group m => cases hbefore _ hp
  obtain ⟨user, huser, rfl⟩ := exists_map_plain hplain
  cases p with
  | plain c => cases hgroup
  | group n =>
    exact ⟨user, n, more, hpieces, huser, of_decide_eq_true (List.forall_mem_cons.mp hmore).1.1⟩

/-- With a placeholder in it, some groups make the name of a server of it: the placeholder takes an
at sign and an address, so that what stands before is no part of the name. -/
theorem exists_server_of_asksServer {rest : String} (h : AsksServer rest) :
    ∃ groups, (server? (fill rest (groupText groups)).toList).isSome = true := by
  obtain ⟨slashes, after, haround, hslashes, -⟩ := exists_around_server rest
  obtain ⟨user, n, more, hpieces, huser, hn⟩ := exists_first_placeholder h
  refine ⟨List.replicate (n + 1) (some "@[::]/"), ?_⟩
  generalize htext : groupText (List.replicate (n + 1) (some "@[::]/")) = text
  have hfilled : Piece.filled (significant text) (.group n) = "@[::]".toList ++ ['/'] := by
    simp only [Piece.filled, if_pos hn, significant, ← htext, groupText, List.getElem?_replicate,
      if_pos (Nat.lt_succ_self n)]
    decide
  have hfiltered : ((fill rest text).toList.filter fun c => !isIgnored c) =
      slashes ++ ((user ++ "@[::]".toList) ++ '/' ::
        (more.flatMap (Piece.filled (significant text)) ++
          after.flatMap (Piece.filled (significant text)))) := by
    rw [filter_fill haround, hpieces, List.flatMap_append, List.flatMap_cons,
      flatMap_filled_plain, hfilled]
    simp only [List.append_assoc]
    rfl
  have haddress : ∀ c ∈ "@[::]".toList, endsServer c = false := by
    have hall : ("@[::]".toList.all fun c => !endsServer c) = true := by decide
    intro c hc
    simpa using List.all_eq_true.mp hall c hc
  have hserver : serverText (fill rest text).toList = user ++ "@[::]".toList :=
    serverText_eq hfiltered hslashes (List.forall_mem_append.mpr ⟨huser, haddress⟩) (by decide)
      (by simp)
  unfold server?
  rw [hserver, WebUrl.hostAndPort?_address]
  rfl

end Template

/-! ## Which templates are kept -/

namespace Rule

open Template (AsksServer expand fill groupText)
open WebUrl (server? serverText)

/-- A template for an `http` URL is filled in to a target exactly if a server is named then. -/
theorem exists_parse_fill_http_iff (rest : String) (text : Nat → List Char)
    (query : Option String) :
    (∃ t, ProxyTarget.parse (fill ("http://" ++ rest) text) query = .ok t) ↔
      (server? (fill rest text).toList).isSome = true := by
  rw [ProxyTarget.exists_parse_iff]
  exact WebUrl.exists_parse?_iff (Template.toList_fill_http rest text)

/-- Without a placeholder in the name of the server, the trial tells what happens for all groups. -/
theorem exists_parse_expand_iff {rest : String} (h : ¬AsksServer rest) (groups : Template.Groups)
    (query : Option String) :
    (∃ t, ProxyTarget.parse (expand ("http://" ++ rest) groups) query = .ok t) ↔
      (server? (probe rest).toList).isSome = true := by
  have hsame := Template.serverText_fill h (groupText groups) fun _ => ['0']
  unfold expand
  rw [exists_parse_fill_http_iff]
  unfold server? probe
  rw [hsame]

/-- With one, some groups give a target. -/
theorem exists_parse_expand_of_asksServer {rest : String} (h : AsksServer rest) :
    ∃ groups : Template.Groups, ∀ query : Option String,
      ∃ t, ProxyTarget.parse (expand ("http://" ++ rest) groups) query = .ok t := by
  obtain ⟨groups, hgroups⟩ := Template.exists_server_of_asksServer h
  exact ⟨groups, fun query => (exists_parse_fill_http_iff rest _ query).mpr hgroups⟩

/-- How the rest of a template after `http://` decides about a rule. -/
structure JudgedByServer (pattern rest : String) : Prop where
  /-- The rule is kept exactly if a server is named with a digit for each placeholder. -/
  kept : (∃ r, compile .proxy pattern ("http://" ++ rest) = .ok r) ↔
    (server? (probe rest).toList).isSome = true
  /-- Without a placeholder in the name of the server, the rule is kept exactly if it works for some
  groups, and then it works for all. -/
  settled : ¬AsksServer rest → ∀ (groups : Template.Groups) (query : Option String),
    (∃ t, ProxyTarget.parse (expand ("http://" ++ rest) groups) query = .ok t) ↔
      ∃ r, compile .proxy pattern ("http://" ++ rest) = .ok r
  /-- With one, it works for some groups in any case. -/
  asked : AsksServer rest → ∃ groups : Template.Groups, ∀ query : Option String,
    ∃ t, ProxyTarget.parse (expand ("http://" ++ rest) groups) query = .ok t
  /-- So it is dropped though it could work exactly if a placeholder stands in the name of the
  server, where a digit does not name one. -/
  lost : (compile .proxy pattern ("http://" ++ rest) =
        .error (.invalidProxyTarget ("http://" ++ rest)) ∧
      ∃ (groups : Template.Groups) (query : Option String) (t : ProxyTarget),
        ProxyTarget.parse (expand ("http://" ++ rest) groups) query = .ok t) ↔
    AsksServer rest ∧ server? (probe rest).toList = none

/-- A template for an `http` URL is judged by the name of the server in it. The trial is right
unless a placeholder stands there; then it may drop a rule that could work. -/
theorem template_is_judged_by_its_server {pattern : String} {compiled : Pattern}
    (hp : Pattern.compile? pattern = some compiled) (rest : String) :
    JudgedByServer pattern rest := by
  have hkept : isProxyTemplate ("http://" ++ rest) = true ↔
      (server? (probe rest).toList).isSome = true :=
    (isProxyTemplate_iff _ none).trans (exists_parse_fill_http_iff rest _ none)
  have hok := (compile_proxy_isOk_iff hp).trans hkept
  have hdropped : compile .proxy pattern ("http://" ++ rest) =
      .error (.invalidProxyTarget ("http://" ++ rest)) ↔ server? (probe rest).toList = none := by
    rw [compile_proxy_eq_invalid_iff hp, ← Option.not_isSome_iff_eq_none, ← hkept,
      Bool.not_eq_true]
  constructor
  · exact hok
  · exact fun hasks groups query => (exists_parse_expand_iff hasks groups query).trans hok.symm
  · exact exists_parse_expand_of_asksServer
  · rw [hdropped]
    constructor
    · rintro ⟨hnone, groups, query, hworks⟩
      refine ⟨?_, hnone⟩
      by_contra hasks
      have hsome := (exists_parse_expand_iff hasks groups query).mp hworks
      rw [hnone] at hsome
      cases hsome
    · rintro ⟨hasks, hnone⟩
      obtain ⟨groups, hworks⟩ := exists_parse_expand_of_asksServer hasks
      exact ⟨hnone, groups, none, hworks none⟩

/-- A placeholder in the path is settled by the trial, and the target works for all groups. -/
theorem template_is_judged_by_its_server_path :
    Pattern.compile? "^" = some .textStart ∧ ¬AsksServer "[::1]:3000/$1" ∧
      ∀ (groups : Template.Groups) (query : Option String),
        ∃ t, ProxyTarget.parse (expand "http://[::1]:3000/$1" groups) query = .ok t := by
  have hp : Pattern.compile? "^" = some .textStart := by rfl
  have hasks : ¬AsksServer "[::1]:3000/$1" := by decide
  have hserver : (server? (probe "[::1]:3000/$1").toList).isSome = true := by decide +kernel
  have hjudged := template_is_judged_by_its_server hp "[::1]:3000/$1"
  have hworks : ∀ (groups : Template.Groups) (query : Option String),
      ∃ t, ProxyTarget.parse (expand ("http://" ++ "[::1]:3000/$1") groups) query = .ok t :=
    fun groups query => (hjudged.settled hasks groups query).mpr (hjudged.kept.mpr hserver)
  exact ⟨hp, hasks, hworks⟩

/-- A digit is no address in brackets, so a rule is dropped that works with an address there. -/
theorem rule_is_dropped_though_it_works :
    Pattern.compile? "^" = some .textStart ∧
    compile .proxy "^" "http://[$1]/" = .error (.invalidProxyTarget "http://[$1]/") ∧
    ∃ t, ProxyTarget.parse (expand "http://[$1]/" [some "/::1/", some "::1"]) none = .ok t := by
  have hp : Pattern.compile? "^" = some .textStart := by rfl
  have hdropped : isProxyTemplate "http://[$1]/" = false := by decide +kernel
  have hworks : ∃ url,
      WebUrl.parse? (expand "http://[$1]/" [some "/::1/", some "::1"]) = some url ∧
        url.scheme = "http" :=
    ⟨⟨"http", some (.ipv6 [0, 0, 0, 0, 0, 0, 0, 1]), none, .segments [""], none, none⟩,
      by decide +kernel, rfl⟩
  exact ⟨hp, (compile_proxy_eq_invalid_iff hp).mpr hdropped,
    (ProxyTarget.exists_parse_iff _ none).mpr hworks⟩

end Rule

end PagePreview
