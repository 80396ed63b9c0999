import Mathlib.Data.List.TakeDrop
import PagePreview.CommandLine.Arguments
import PagePreview.Proofs.Outcomes

/-!
# The flags that a command line gives

A command line that asks the program to serve is a row of flags with their values, perhaps closed by
`--`. A value stands in the next argument, or in the same one behind the flag. What the program is
asked for are these values: of a flag that may be repeated all of them, in order, and of any other
flag its only one. No value that is to be a path is empty.
-/

namespace PagePreview

/-- The names of a flag: the long one and the letter. -/
def Flag.names (f : Flag) : List String :=
  ("--" ++ f.long) :: (f.letter?.map fun c => String.ofList ['-', c]).toList

namespace CommandLine

/-- An argument that is read as a flag, or as an attempt at one. -/
def LooksLikeFlag (text : String) : Prop := ∃ c rest, text.toList = '-' :: c :: rest

/-- A flag and its value in one argument. -/
inductive Joined (flag : Flag) (value : String) : String → Prop
  /-- The long name, an equals sign and the value. -/
  | long : Joined flag value ("--" ++ flag.long ++ "=" ++ value)
  /-- The letter, an equals sign and the value. -/
  | letterEquals {c : Char} (hc : flag.letter? = some c) :
      Joined flag value (String.ofList ('-' :: c :: '=' :: value.toList))
  /-- The letter and the value, which is not empty and does not begin with an equals sign. -/
  | letter {c : Char} (hc : flag.letter? = some c) (hvalue : value.toList ≠ [])
      (hequals : value.toList.head? ≠ some '=') :
      Joined flag value (String.ofList ('-' :: c :: value.toList))

/-- A row of flags with their values, as they are written. -/
inductive Gives : List String → List (Flag × String) → Prop
  /-- Nothing is given. -/
  | nil : Gives [] []
  /-- The end is marked. -/
  | stop : Gives ["--"] []
  /-- A flag with its value in the next argument. -/
  | apart {flag : Flag} {name value : String} {arguments : List String}
      {given : List (Flag × String)} (hflag : flag ≠ .help) (hname : name ∈ flag.names)
      (hvalue : ¬LooksLikeFlag value) (rest : Gives arguments given) :
      Gives (name :: value :: arguments) ((flag, value) :: given)
  /-- A flag with its value in the same argument. -/
  | joined {flag : Flag} {value text : String} {arguments : List String}
      {given : List (Flag × String)} (hflag : flag ≠ .help) (htext : Joined flag value text)
      (rest : Gives arguments given) : Gives (text :: arguments) ((flag, value) :: given)

/-- The values that are given for a flag, in order. -/
def values (flag : Flag) (given : List (Flag × String)) : List String :=
  (given.filter (·.1 = flag)).map (·.2)

/-- A flag with its value is right after these flags: it is not repeated, unless it may be, and its
value is not empty, unless it may be. -/
def Fits (seen : List Flag) (flag : Flag) (value : String) : Prop :=
  (flag ∈ seen → flag.isRepeatable = true) ∧ (value = "" → flag.allowsEmpty = true)

/-- The flags that were seen, with one more. -/
def record (seen : List Flag) (flag : Flag) : List Flag :=
  if seen.contains flag then seen else seen ++ [flag]

/-- Every flag is right after those before it. -/
def Accepted : List Flag → List (Flag × String) → Prop
  | _, [] => True
  | seen, (flag, value) :: given => Fits seen flag value ∧ Accepted (record seen flag) given

/-- The options with all the flags that are given. -/
def addAll (o : Options) (given : List (Flag × String)) : Options :=
  given.foldl (fun o g => o.add g.2 g.1) o

/-- The options that are these values. -/
def optionsOf (given : List (Flag × String)) : Options where
  config := (values .config given).head?
  listen := (values .listen given).head?
  rules := values .rules given
  views := (values .views given).head?
  data := values .data given

variable {p q : Progress} {o : Options} {flag : Flag} {value text : String}
  {arguments : List String} {seen : List Flag} {given : List (Flag × String)}

/-! ## One argument -/

/-- An argument stands for itself exactly if it does not look like a flag. -/
theorem ofText_eq_plain_iff : Argument.ofText text = .plain text ↔ ¬LooksLikeFlag text := by
  unfold LooksLikeFlag
  fun_cases Argument.ofText text with
  | case1 rest hchars name value hspan => simp [hchars]
  | case2 c rest hlong hchars => simp [hchars]
  | case3 hlong hletter =>
    refine iff_of_true rfl ?_
    rintro ⟨c, rest, hchars⟩
    exact hletter c rest hchars

/-- A text that is read as a long name is that name, perhaps with a value. -/
theorem long_of_ofText {name : String} {value? : Option String}
    (h : Argument.ofText text = .long name value?) :
    (value? = none ∧ text = "--" ++ name) ∨
      ∃ value, value? = some value ∧ text = "--" ++ name ++ "=" ++ value := by
  revert h
  fun_cases Argument.ofText text with
  | case1 rest hchars front back hspan =>
    intro h
    have hjoin : rest.takeWhile (· != '=') ++ rest.dropWhile (· != '=') = rest :=
      List.takeWhile_append_dropWhile
    rw [List.span_eq_takeWhile_dropWhile] at hspan
    obtain ⟨rfl, rfl⟩ := Prod.mk.inj hspan
    obtain ⟨rfl, rfl⟩ := Argument.long.inj h
    cases hvalue : rest.dropWhile (· != '=') with
    | nil =>
      rw [hvalue, List.append_nil] at hjoin
      exact .inl ⟨rfl, by rw [← String.toList_inj]; simp [hchars, hjoin]⟩
    | cons c value =>
      have hequals : c = '=' := by
        have hhead := List.head?_dropWhile_not (· != '=') rest
        rw [hvalue] at hhead
        simpa using hhead
      subst hequals
      rw [hvalue] at hjoin
      exact .inr ⟨String.ofList value, rfl, by rw [← String.toList_inj]; simp [hchars, hjoin]⟩
  | case2 c rest hlong hchars => exact nofun
  | case3 hlong hletter => exact nofun

/-- A text that is read as a letter is that letter behind a dash, with what follows. -/
theorem letter_of_ofText {c : Char} {rest : List Char} (h : Argument.ofText text = .letter c rest) :
    text = String.ofList ('-' :: c :: rest) := by
  revert h
  fun_cases Argument.ofText text with
  | case1 rest' hchars front back hspan => exact nofun
  | case2 c' rest' hlong hchars =>
    intro h
    obtain ⟨rfl, rfl⟩ := Argument.letter.inj h
    rw [← hchars, String.ofList_toList]
  | case3 hlong hletter => exact nofun

/-- An argument that stands for itself is not changed. -/
theorem plain_of_ofText {text' : String} (h : Argument.ofText text = .plain text') :
    text' = text := by
  unfold Argument.ofText at h
  split at h
  · simp at h
  · simp at h
  · exact (Argument.plain.inj h).symm

/-- A flag that is found by a long name has this name. -/
theorem long_of_ofLong? {name : String} (h : Flag.ofLong? name = some flag) : flag.long = name := by
  simpa using List.find?_some h

/-- A flag that is found by a letter has this letter. -/
theorem letter?_of_ofLetter? {c : Char} (h : Flag.ofLetter? c = some flag) :
    flag.letter? = some c := by
  simpa using List.find?_some h

/-- A text that stands for a flag, perhaps with a value. -/
def StandsFor (flag : Flag) (value? : Option String) (text : String) : Prop :=
  match value? with
  | none => text ∈ flag.names
  | some value => Joined flag value text

/-- The letter of a flag, with what stands behind it, gives the flag and perhaps its value. -/
theorem standsFor_of_adjoined? {c : Char} {rest : List Char} (hc : flag.letter? = some c) :
    StandsFor flag (adjoined? rest) (String.ofList ('-' :: c :: rest)) := by
  fun_cases adjoined? rest with
  | case1 => simp [StandsFor, Flag.names, hc]
  | case2 value =>
    have hjoined : Joined flag (String.ofList value) _ := .letterEquals hc
    rwa [String.toList_ofList] at hjoined
  | case3 _ hne hequals =>
    have hjoined : Joined flag (String.ofList rest)
        (String.ofList ('-' :: c :: (String.ofList rest).toList)) := by
      refine .letter hc ?_ ?_
      · rw [String.toList_ofList]
        exact hne
      · rw [String.toList_ofList]
        intro hhead
        obtain ⟨value, rfl⟩ := List.head?_eq_some_iff.mp hhead
        exact hequals value rfl
    rwa [String.toList_ofList] at hjoined

/-! ## One step of the reading -/

/-- Where no flag is pending, there is nothing to settle. -/
theorem settled_of_pending_none (h : p.pending = none) : p.settled = .ok p := by
  unfold Progress.settled Progress.settle
  rw [h]

/-- A pending flag with a value is settled if it fits. -/
theorem settled_of_pending_some (h : p.pending = some (flag, some value)) (hq : p.settled = .ok q) :
    Fits p.given flag value ∧ q = ⟨p.options.add value flag, record p.given flag, none⟩ := by
  unfold Progress.settled Progress.settle at hq
  rw [h] at hq
  dsimp only at hq
  by_cases hagain : p.given.contains flag = true ∧ (!flag.isRepeatable) = true
  · rw [if_pos hagain] at hq
    cases hq
  · rw [if_neg hagain] at hq
    by_cases hempty : value = "" ∧ (!flag.allowsEmpty) = true
    · rw [if_pos hempty] at hq
      cases hq
    · rw [if_neg hempty] at hq
      refine ⟨⟨fun hseen => ?_, fun hvalue => ?_⟩, (Except.ok.inj hq).symm⟩
      · simpa [hseen] using hagain
      · simpa [hvalue] using hempty

/-- A flag that waits for its value cannot be settled. -/
theorem not_settled_of_waiting (h : p.pending = some (flag, none)) : p.settled ≠ .ok q := by
  unfold Progress.settled Progress.settle
  rw [h]
  exact nofun

/-- A flag is taken after the pending one has been settled, and is settled itself if its value is
there. -/
theorem take_eq_ok {value? : Option String} (h : p.take flag value? = .ok q) :
    ∃ r, p.settled = .ok r ∧
      ((value? = none ∧ q = { r with pending := some (flag, none) }) ∨
        ∃ value, value? = some value ∧
          ({ r with pending := some (flag, some value) } : Progress).settled = .ok q) := by
  unfold Progress.take at h
  obtain ⟨r, hsettled, h⟩ := exists_of_bind_ok h
  refine ⟨r, hsettled, ?_⟩
  cases value? with
  | none => exact .inl ⟨rfl, (Except.ok.inj h).symm⟩
  | some value => exact .inr ⟨value, rfl, h⟩

/-- Reading goes on behind every flag but the one for help. -/
theorem takeFlag_eq_more {value? : Option String} (h : takeFlag p flag value? = .ok (.more q)) :
    flag ≠ .help ∧ p.take flag value? = .ok q := by
  unfold takeFlag at h
  cases flag with
  | help =>
    obtain ⟨r, -, hhelp⟩ := exists_of_map_ok h
    cases hhelp
  | _ =>
    obtain ⟨r, htake, hmore⟩ := exists_of_map_ok h
    cases hmore
    exact ⟨nofun, htake⟩

/-- An argument after which the reading goes on is a value that is waited for, or stands for a flag
that takes a value. -/
theorem readArgument_eq_more (h : readArgument p (.ofText text) = .ok (.more q)) :
    (p.isWaiting = true ∧ ¬LooksLikeFlag text ∧ q = p.supply text) ∨
      ∃ flag value?, flag ≠ .help ∧ StandsFor flag value? text ∧ p.take flag value? = .ok q := by
  unfold readArgument at h
  cases hform : Argument.ofText text with
  | long name value? =>
    right
    rw [hform] at h
    dsimp only at h
    cases hflag : Flag.ofLong? name with
    | none =>
      rw [hflag] at h
      cases h
    | some flag =>
      have hnot : ∀ value, flag = .help → value? ≠ some value := by
        rintro value rfl rfl
        rw [hflag] at h
        cases h
      have htaken : takeFlag p flag value? = .ok (.more q) := by
        rw [hflag] at h
        cases flag with
        | help =>
          cases value? with
          | none => exact h
          | some value => exact absurd rfl (hnot value rfl)
        | _ => exact h
      obtain ⟨hhelp, htake⟩ := takeFlag_eq_more htaken
      refine ⟨flag, _, hhelp, ?_, htake⟩
      rw [← long_of_ofLong? hflag] at hform
      rcases long_of_ofText hform with ⟨rfl, rfl⟩ | ⟨value, rfl, rfl⟩
      · exact List.mem_cons_self
      · exact .long
  | letter c rest =>
    right
    rw [hform] at h
    dsimp only at h
    cases hflag : Flag.ofLetter? c with
    | none =>
      rw [hflag] at h
      cases h
    | some flag =>
      rw [hflag] at h
      obtain ⟨hhelp, htake⟩ := takeFlag_eq_more h
      refine ⟨flag, _, hhelp, ?_, htake⟩
      rw [letter_of_ofText hform]
      exact standsFor_of_adjoined? (letter?_of_ofLetter? hflag)
  | plain text' =>
    left
    rw [hform] at h
    dsimp only at h
    by_cases hwaiting : p.isWaiting = true
    · rw [if_pos hwaiting] at h
      obtain rfl := plain_of_ofText hform
      cases h
      exact ⟨hwaiting, ofText_eq_plain_iff.mp hform, rfl⟩
    · rw [if_neg hwaiting] at h
      cases h

/-- Only a pending flag waits for a value. -/
theorem pending_of_isWaiting (h : p.isWaiting = true) : ∃ flag, p.pending = some (flag, none) := by
  unfold Progress.isWaiting at h
  split at h
  · exact ⟨_, ‹_›⟩
  · cases h

/-- At the end, the options of the settled flags are those to serve with. -/
theorem finish_eq_serve (h : finish p = .ok (.serve o)) :
    ∃ q, p.settled = .ok q ∧ q.options = o := by
  obtain ⟨q, hsettled, hserve⟩ := exists_of_map_ok h
  exact ⟨q, hsettled, Command.serve.inj hserve⟩

/-- An argument other than `--` is read, and then the others. -/
theorem readFrom_of_ne {rest : List String} (hne : text ≠ "--")
    (h : readFrom p (text :: rest) = .ok (.serve o)) :
    ∃ q, readArgument p (.ofText text) = .ok (.more q) ∧ readFrom q rest = .ok (.serve o) := by
  unfold readFrom at h
  rw [if_neg hne] at h
  cases hread : readArgument p (.ofText text) with
  | error e =>
    rw [hread] at h
    cases h
  | ok outcome =>
    rw [hread] at h
    cases outcome with
    | help => cases h
    | more q => exact ⟨q, rfl, h⟩

/-! ## The whole command line -/

/-- The arguments that are left give flags that fit, and with them the options. -/
def Completes (q : Progress) (arguments : List String) (o : Options) : Prop :=
  ∃ given, Gives arguments given ∧ Accepted q.given given ∧ addAll q.options given = o

/-- A reading that ends well goes on with flags and their values, once the value is there that is
waited for. The induction is on the arguments; the flag that is pending decides which case it is. -/
theorem completes_of_readFrom (h : readFrom p arguments = .ok (.serve o)) :
    (∃ q, p.settled = .ok q ∧ Completes q arguments o) ∨
      ∃ flag value rest q, p.pending = some (flag, none) ∧ arguments = value :: rest ∧
        ¬LooksLikeFlag value ∧ (p.supply value).settled = .ok q ∧ Completes q rest o := by
  induction arguments generalizing p with
  | nil =>
    obtain ⟨q, hsettled, rfl⟩ := finish_eq_serve h
    exact .inl ⟨q, hsettled, [], .nil, trivial, rfl⟩
  | cons text rest ih =>
    by_cases hstop : text = "--"
    · subst hstop
      cases rest with
      | nil =>
        obtain ⟨q, hsettled, rfl⟩ := finish_eq_serve h
        exact .inl ⟨q, hsettled, [], .stop, trivial, rfl⟩
      | cons next rest => cases h
    · obtain ⟨p', hread, h⟩ := readFrom_of_ne hstop h
      rcases readArgument_eq_more hread with
        ⟨hwaiting, htext, rfl⟩ | ⟨flag, value?, hhelp, hstands, htake⟩
      · -- The argument is the value that is waited for, and what follows is read without it.
        obtain ⟨flag, hpending⟩ := pending_of_isWaiting hwaiting
        rcases ih h with ⟨q, hsettled, hcompletes⟩ | ⟨_, _, _, _, hsupplied, -⟩
        · exact .inr ⟨flag, text, rest, q, hpending, rfl, htext, hsettled, hcompletes⟩
        · simp [Progress.supply, hpending] at hsupplied
      · left
        obtain ⟨r, hsettled, hnext⟩ := take_eq_ok htake
        refine ⟨r, hsettled, ?_⟩
        rcases hnext with ⟨rfl, rfl⟩ | ⟨value, rfl, hvalue⟩
        · -- The value of the flag has to come next.
          rcases ih h with ⟨q, hunsettled, -⟩ |
            ⟨flag', value, rest', q, hpending, rfl, hplain, hsupplied, given, hgives, hfits, rfl⟩
          · exact absurd hunsettled (not_settled_of_waiting rfl)
          · obtain ⟨hfit, rfl⟩ := settled_of_pending_some rfl hsupplied
            exact ⟨(flag, value) :: given, .apart hhelp hstands hplain hgives,
              ⟨hfit, hfits⟩, rfl⟩
        · obtain ⟨hfit, rfl⟩ := settled_of_pending_some rfl hvalue
          rcases ih h with ⟨q, hq, given, hgives, hfits, rfl⟩ | ⟨_, _, _, _, hpending, -⟩
          · obtain rfl := Except.ok.inj ((settled_of_pending_none rfl).symm.trans hq)
            exact ⟨(flag, value) :: given, .joined hhelp hstands hgives, ⟨hfit, hfits⟩, rfl⟩
          · cases hpending

/-! ## The options -/

/-- The values of a flag are collected one by one. -/
theorem values_cons (flag other : Flag) (value : String) (given : List (Flag × String)) :
    values flag ((other, value) :: given) =
      if other = flag then value :: values flag given else values flag given := by
  unfold values
  by_cases hsame : other = flag <;> simp [hsame]

/-- Of a flag that is not repeatable the last value counts; those of the others are collected. -/
theorem addAll_eq (o : Options) (given : List (Flag × String)) : addAll o given =
    { config := (values .config given).getLast?.or o.config
      listen := (values .listen given).getLast?.or o.listen
      rules := o.rules ++ values .rules given
      views := (values .views given).getLast?.or o.views
      data := o.data ++ values .data given } := by
  induction given generalizing o with
  | nil => simp [addAll, values]
  | cons first given ih =>
    obtain ⟨flag, value⟩ := first
    have hstep : addAll o ((flag, value) :: given) = addAll (o.add value flag) given := rfl
    rw [hstep, ih]
    cases flag <;> simp [values_cons, Options.add, List.getLast?_cons, Option.or_some]

/-- A flag is recorded once. -/
theorem mem_record {flag' : Flag} : flag' ∈ record seen flag ↔ flag' ∈ seen ∨ flag' = flag := by
  unfold record
  by_cases hseen : seen.contains flag = true
  · rw [if_pos hseen]
    rw [List.contains_iff_mem] at hseen
    exact ⟨.inl, fun h => h.elim id fun hsame => hsame ▸ hseen⟩
  · rw [if_neg hseen]
    simp

/-- A flag that may not be repeated has no value if it was seen, and otherwise at most one. -/
theorem Accepted.at_most_one (h : Accepted seen given) (hflag : flag.isRepeatable = false) :
    (flag ∈ seen → values flag given = []) ∧ (values flag given).length ≤ 1 := by
  induction given generalizing seen with
  | nil => exact ⟨fun _ => rfl, Nat.zero_le 1⟩
  | cons first given ih =>
    obtain ⟨flag', value⟩ := first
    obtain ⟨hfits, hrest⟩ := h
    obtain ⟨hnone, hlength⟩ := ih hrest
    rw [values_cons]
    by_cases hsame : flag' = flag
    · subst hsame
      have hnil := hnone (mem_record.mpr (.inr rfl))
      rw [if_pos rfl, hnil]
      refine ⟨fun hseen => ?_, Nat.le_refl 1⟩
      cases hflag.symm.trans (hfits.1 hseen)
    · rw [if_neg hsame]
      exact ⟨fun hseen => hnone (mem_record.mpr (.inl hseen)), hlength⟩

/-- Of a flag that cannot be repeated, the first value is the last one too. -/
theorem Accepted.getLast?_values (h : Accepted [] given) (hflag : flag.isRepeatable = false) :
    (values flag given).getLast? = (values flag given).head? := by
  have hlength := (h.at_most_one hflag).2
  match hvalues : values flag given with
  | [] => rfl
  | [value] => rfl
  | first :: second :: rest =>
    rw [hvalues] at hlength
    simp at hlength

/-- A command line that asks to serve gives flags that fit, and their values are the options. -/
theorem gives_of_ofArguments (h : Command.ofArguments arguments = .ok (.serve o)) :
    ∃ given, Gives arguments given ∧ Accepted [] given ∧ o = optionsOf given := by
  have hcompletes := completes_of_readFrom (p := {}) h
  rcases hcompletes with ⟨q, hsettled, given, hgives, haccepted, rfl⟩ | ⟨_, _, _, _, hpending, -⟩
  · obtain rfl := Except.ok.inj ((settled_of_pending_none rfl).symm.trans hsettled)
    refine ⟨given, hgives, haccepted, ?_⟩
    rw [addAll_eq, haccepted.getLast?_values rfl, haccepted.getLast?_values rfl,
      haccepted.getLast?_values rfl]
    simp [optionsOf]
  · cases hpending

end CommandLine

end PagePreview
