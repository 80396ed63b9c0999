import PagePreview.CommandLine.StartUp
import PagePreview.Proofs.Encoding
import PagePreview.Proofs.GivenFlags

/-!
# The command line in the place of the file

What the command line gives takes the place of what is configured, lists as a whole, and everything
else is as it is configured. A server that starts has a configuration without faults. But the file
is checked before the command line is looked at: two files that differ only in what the command line
gives lead to the same start exactly if they have the same faults. A file with a fault keeps the
server from starting even if the value at fault would not have been used.
-/

namespace PagePreview

open CommandLine

/-- The configuration in a text, whatever faults it has. -/
def Config.ofText? (text : String) : Option Config :=
  (Toml.parse? text).bind fun members => ConfigFormat.toml.config? (.table members)

/-- There is a file at a path, and it holds a configuration, whatever faults that has. -/
def Config.Holds (disk : Disk) (path : String) (c : Config) : Prop :=
  ∃ text, disk.readText path = .ok text ∧ Config.ofText? text = some c

/-- The configuration before the command line is looked at: that of the file, or the default. -/
def Config.IsBase (disk : Disk) : Option String → Config → Prop
  | none, c => c = {}
  | some path, c => Holds disk path c

/-- What the options are put over, if the file can be used. -/
def Options.base (o : Options) (disk : Disk) : Except StartFailure Config :=
  match o.config with
  | some path => (Config.load disk path).mapError .config
  | none => .ok {}

/-- Two configurations are the same, up to what the options give. -/
structure SameOutside (o : Options) (a b : Config) : Prop where
  /-- The address to listen on. -/
  bindAddress : o.listen = none → a.listener.bindAddress = b.listener.bindAddress
  /-- The rule files. -/
  ruleFiles : o.rules = [] → a.rewrite.ruleFiles = b.rewrite.ruleFiles
  /-- The root of the templates. -/
  viewPath : o.views = none → a.fixtures.viewPath = b.fixtures.viewPath
  /-- The roots of data. -/
  dataPaths : o.data = [] → a.fixtures.dataPaths = b.fixtures.dataPaths
  /-- When the rule files are read again. -/
  reload : a.rewrite.reload = b.rewrite.reload
  /-- How requests are forwarded. -/
  proxy : a.proxy = b.proxy
  /-- What is logged and counted. -/
  observability : a.observability = b.observability

/-- A configuration is another one, with what the options give in its place. -/
structure Overrides (o : Options) (base c : Config) : Prop where
  /-- The address to listen on. -/
  bindAddress : c.listener.bindAddress = o.listen.getD base.listener.bindAddress
  /-- The rule files. -/
  ruleFiles : c.rewrite.ruleFiles = if o.rules = [] then base.rewrite.ruleFiles else o.rules
  /-- The root of the templates. -/
  viewPath : c.fixtures.viewPath = o.views.getD base.fixtures.viewPath
  /-- The roots of data. -/
  dataPaths : c.fixtures.dataPaths = if o.data = [] then base.fixtures.dataPaths else o.data
  /-- When the rule files are read again. -/
  reload : c.rewrite.reload = base.rewrite.reload
  /-- How requests are forwarded. -/
  proxy : c.proxy = base.proxy
  /-- What is logged and counted. -/
  observability : c.observability = base.observability

variable {o : Options} {disk : Disk} {path : String} {a b base c : Config}

/-! ## The options over a configuration -/

/-- What the command line gives takes the place of what is configured, and the rest stays. -/
theorem overrides_override (o : Options) (base : Config) : Overrides o base (o.override base) := by
  refine ⟨rfl, ?_, rfl, ?_, rfl, rfl, rfl⟩
  · simp [Options.override]
  · simp [Options.override]

/-- What the options take the place of does not matter. -/
theorem SameOutside.override_eq (h : SameOutside o a b) : o.override a = o.override b := by
  have htext : ∀ {given : Option String} {x y : String},
      (given = none → x = y) → given.getD x = given.getD y := by
    intro given x y hsame
    cases given with
    | none => exact hsame rfl
    | some value => rfl
  have hlist : ∀ {given x y : List String},
      (given = [] → x = y) → (if given.isEmpty then x else given) =
        if given.isEmpty then y else given := by
    intro given x y hsame
    cases given with
    | nil => exact hsame rfl
    | cons value rest => rfl
  unfold Options.override
  dsimp only
  rw [htext h.bindAddress, hlist h.ruleFiles, htext h.viewPath, hlist h.dataPaths, h.reload,
    h.proxy, h.observability]

/-! ## The start -/

/-- The default configuration has no fault. -/
theorem faults_default : ({} : Config).faults = [] := by decide +kernel

/-- The file is checked first, and then the configuration with the options. -/
theorem settledConfig_eq (o : Options) (disk : Disk) : o.settledConfig disk =
    (o.base disk).bind fun base =>
      if (o.override base).faults = [] then .ok (o.override base)
      else .error (.faults (o.override base).faults) := by
  simp only [← List.isEmpty_iff]
  unfold Options.settledConfig Options.base
  cases o.config with
  | none => rfl
  | some path => rfl

/-- A file that holds a configuration gives it, unless it has faults. -/
theorem load_of_holds (h : Config.Holds disk path a) : Config.load disk path =
    if a.faults = [] then .ok a else .error (.validation a.faults) := by
  obtain ⟨text, htext, hconfig⟩ := h
  unfold Config.ofText? at hconfig
  unfold Config.load Config.parse
  rw [htext]
  dsimp only
  rw [hconfig]
  simp only [List.isEmpty_iff]

/-- A file whose configuration is loaded holds it, and it has no faults. -/
theorem holds_of_load (h : Config.load disk path = .ok a) :
    Config.Holds disk path a ∧ a.faults = [] := by
  unfold Config.load at h
  cases htext : disk.readText path with
  | error e =>
    rw [htext] at h
    cases h
  | ok text =>
    rw [htext] at h
    dsimp only at h
    revert h
    fun_cases Config.parse text with
    | case1 => exact nofun
    | case2 c hconfig hfaults =>
      intro h
      cases h
      exact ⟨⟨text, htext, hconfig⟩, List.isEmpty_iff.mp hfaults⟩
    | case3 => exact nofun

/-- So does a file that the command line names. -/
theorem base_of_holds (hpath : o.config = some path) (h : Config.Holds disk path a) :
    o.base disk = if a.faults = [] then .ok a else .error (.config (.validation a.faults)) := by
  unfold Options.base
  rw [hpath]
  dsimp only
  rw [load_of_holds h]
  split <;> rfl

/-- The configuration that the options go over is the one in the file or the default one. -/
theorem isBase_of_base (h : o.base disk = .ok base) :
    Config.IsBase disk o.config base ∧ base.faults = [] := by
  unfold Options.base at h
  cases hpath : o.config with
  | none =>
    rw [hpath] at h
    cases h
    exact ⟨rfl, faults_default⟩
  | some path =>
    rw [hpath] at h
    cases hload : Config.load disk path with
    | error e =>
      dsimp only at h
      rw [hload] at h
      cases h
    | ok c =>
      dsimp only at h
      rw [hload] at h
      cases h
      exact holds_of_load hload

/-- A settled configuration has no fault, and neither has the one that the options are put over. -/
theorem settledConfig_eq_ok (h : o.settledConfig disk = .ok c) :
    c.faults = [] ∧ ∃ base, Config.IsBase disk o.config base ∧ base.faults = [] ∧
      c = o.override base := by
  rw [settledConfig_eq] at h
  obtain ⟨base, hbase, h⟩ := exists_of_bind_ok h
  obtain ⟨hisBase, hnone⟩ := isBase_of_base hbase
  by_cases hfaults : (o.override base).faults = []
  · rw [if_pos hfaults] at h
    cases h
    exact ⟨hfaults, base, hisBase, hnone, rfl⟩
  · rw [if_neg hfaults] at h
    cases h

/-- Over two files that differ only in what the options take the place of, the same is settled
exactly if both files have the same faults. -/
theorem settledConfig_eq_iff {other : Disk} (hpath : o.config = some path)
    (ha : Config.Holds disk path a) (hb : Config.Holds other path b)
    (hsame : o.override a = o.override b) :
    o.settledConfig disk = o.settledConfig other ↔ a.faults = b.faults := by
  rw [settledConfig_eq, settledConfig_eq, base_of_holds hpath ha, base_of_holds hpath hb]
  constructor
  · intro h
    by_cases hfirst : a.faults = [] <;> by_cases hsecond : b.faults = []
    · rw [hfirst, hsecond]
    · rw [if_pos hfirst, if_neg hsecond] at h
      dsimp only [Except.bind] at h
      split at h <;> cases h
    · rw [if_neg hfirst, if_pos hsecond] at h
      dsimp only [Except.bind] at h
      split at h <;> cases h
    · rw [if_neg hfirst, if_neg hsecond] at h
      simpa [Except.bind] using h
  · intro h
    rw [h]
    split
    · dsimp only [Except.bind]
      rw [hsame]
    · rfl

/-- A server that starts has settled its configuration. -/
theorem settledConfig_of_serving {mayListen : String → Bool} {environment : Option String}
    {errors : List String}
    (h : StartUp.ofOptions mayListen environment disk o = .serving c errors) :
    o.settledConfig disk = .ok c := by
  revert h
  fun_cases StartUp.ofOptions mayListen environment disk o with
  | case1 => exact nofun
  | case2 d hsettled =>
    intro h
    obtain ⟨rfl, -⟩ := StartUp.serving.inj h
    exact hsettled
  | case3 => exact nofun

/-- A call that asks to serve starts with its options. -/
theorem ofArguments_of_serve {mayListen : String → Bool} {environment : Option String}
    {arguments : List String} (h : Command.ofArguments arguments = .ok (.serve o)) :
    StartUp.ofArguments mayListen environment disk arguments =
      StartUp.ofOptions mayListen environment disk o := by
  unfold StartUp.ofArguments
  rw [h]

/-- Whatever command line asks the program to serve: it is a row of flags with their values, with
no flag twice that may not be repeated, and the options are these values. A file with faults is
refused for all of them, whatever the options give. So two files that hold configurations, perhaps
with faults, that differ only in what the options give lead to the same configuration, or the same
refusal, exactly if they have the same faults; then everything that is written is the same, too. And
whenever the server starts, its configuration has no faults and is that of the file, or the default
one, with the options in their places: of a repeated flag all the values, in order, in the place of
the whole list. -/
theorem command_line_overrides_file {arguments : List String} {o : Options}
    (asked : Command.ofArguments arguments = .ok (.serve o)) :
    (∃ given, Gives arguments given ∧ o = optionsOf given ∧
      ∀ flag : Flag, flag.isRepeatable = false → (values flag given).length ≤ 1) ∧
    (∀ path disk a, o.config = some path → Config.Holds disk path a → a.faults ≠ [] →
      o.settledConfig disk = .error (.config (.validation a.faults))) ∧
    (∀ path first second a b, o.config = some path →
      Config.Holds first path a → Config.Holds second path b → SameOutside o a b →
      (o.settledConfig first = o.settledConfig second ↔ a.faults = b.faults) ∧
      (a.faults = b.faults → ∀ mayListen environment,
        StartUp.ofArguments mayListen environment first arguments =
          StartUp.ofArguments mayListen environment second arguments)) ∧
    ∀ mayListen environment disk c errors,
      StartUp.ofArguments mayListen environment disk arguments = .serving c errors →
      c.faults = [] ∧ ∃ base, Config.IsBase disk o.config base ∧ base.faults = [] ∧
        Overrides o base c := by
  obtain ⟨given, hgives, haccepted, ho⟩ := gives_of_ofArguments asked
  refine ⟨⟨given, hgives, ho, fun flag hflag => (haccepted.at_most_one hflag).2⟩, ?_, ?_, ?_⟩
  · intro path disk a hpath ha hfaults
    rw [settledConfig_eq, base_of_holds hpath ha, if_neg hfaults]
    rfl
  · intro path first second a b hpath ha hb hsame
    have hiff := settledConfig_eq_iff hpath ha hb hsame.override_eq
    refine ⟨hiff, fun hfaults mayListen environment => ?_⟩
    rw [ofArguments_of_serve asked, ofArguments_of_serve asked]
    unfold StartUp.ofOptions
    rw [hiff.mpr hfaults]
  · intro mayListen environment disk c errors hserving
    rw [ofArguments_of_serve asked] at hserving
    obtain ⟨hfaults, base, hbase, hnone, rfl⟩ :=
      settledConfig_eq_ok (settledConfig_of_serving hserving)
    exact ⟨hfaults, base, hbase, hnone, overrides_override o base⟩

/-- A disk with a configuration file. -/
def configured (text : String) : Disk := (Disk.empty ["srv"]).write "a.toml" (Utf8.encode text)

/-- The file of the disk has the text that it was given. -/
theorem readText_configured (text : String) : (configured text).readText "a.toml" = .ok text := by
  have hread : (configured text).read "a.toml" = .ok (Utf8.encode text) := by rfl
  unfold Disk.readText
  rw [hread]
  dsimp only
  rw [Utf8.decode?_eq_some_iff.mpr rfl]

/-- Two files name different addresses and rule files, and the command line gives others: the server
starts with what is given, and neither file can be told from the other. -/
theorem command_line_overrides_file_two_files :
    let arguments := ["-c", "a.toml", "--rules=b.conf", "-rc.conf", "--listen", "127.0.0.1:0"]
    let first := configured "[listener]\nbind_address = \"0.0.0.0:80\""
    let second := configured "[rewrite]\nrule_files = [\"x.conf\", \"y.conf\"]"
    let c : Config :=
      { listener := ⟨"127.0.0.1:0"⟩, rewrite := { ruleFiles := ["b.conf", "c.conf"] } }
    StartUp.ofArguments (fun _ => true) none first arguments = .serving c [] ∧
    StartUp.ofArguments (fun _ => true) none first arguments =
      StartUp.ofArguments (fun _ => true) none second arguments ∧ c.faults = [] := by
  intro arguments first second c
  have hasked : Command.ofArguments arguments = .ok (.serve
      { config := some "a.toml", listen := some "127.0.0.1:0",
        rules := ["b.conf", "c.conf"] }) := by
    decide +kernel
  have hfirst : Config.Holds first "a.toml" { listener := ⟨"0.0.0.0:80"⟩ } :=
    ⟨_, readText_configured _, by decide +kernel⟩
  have hsecond : Config.Holds second "a.toml"
      { rewrite := { ruleFiles := ["x.conf", "y.conf"] } } :=
    ⟨_, readText_configured _, by decide +kernel⟩
  have hserving : StartUp.ofArguments (fun _ => true) none first arguments = .serving c [] := by
    decide +kernel
  obtain ⟨-, -, htwo, hstarted⟩ := command_line_overrides_file hasked
  obtain ⟨-, hsame⟩ := htwo "a.toml" first second _ _ rfl hfirst hsecond
    ⟨nofun, nofun, fun _ => rfl, fun _ => rfl, rfl, rfl, rfl⟩
  exact ⟨hserving, hsame (by decide +kernel) (fun _ => true) none,
    (hstarted (fun _ => true) none first c [] hserving).1⟩

/-- One file names an address that is none, the other is empty, and the command line gives an
address: with the empty file the server starts, with the other one it is refused because of the
address that would not have been used. -/
theorem file_is_refused_for_unused_value :
    let arguments := ["--config", "a.toml", "--listen", "127.0.0.1:0"]
    let o : Options := { config := some "a.toml", listen := some "127.0.0.1:0" }
    let first := configured ""
    let second := configured "[listener]\nbind_address = \"localhost\""
    let b : Config := { listener := ⟨"localhost"⟩ }
    Command.ofArguments arguments = .ok (.serve o) ∧
    Config.Holds first "a.toml" {} ∧ Config.Holds second "a.toml" b ∧ SameOutside o {} b ∧
    (∀ mayListen environment, mayListen "127.0.0.1:0" = true →
      StartUp.ofArguments mayListen environment first arguments =
        .serving (o.override b) (LogFilter.warnings b.observability environment)) ∧
    ∀ mayListen environment, StartUp.ofArguments mayListen environment second arguments =
      .ended "" ["Error: Validation([InvalidBindAddress(\"localhost\")])"] 1 := by
  intro arguments o first second b
  have hasked : Command.ofArguments arguments = .ok (.serve o) := by decide +kernel
  have hfirst : Config.Holds first "a.toml" {} := ⟨_, readText_configured _, by decide +kernel⟩
  have hsecond : Config.Holds second "a.toml" b := ⟨_, readText_configured _, by decide +kernel⟩
  have hsettled : o.settledConfig first = .ok (o.override b) := by decide +kernel
  have hrefused : o.settledConfig second =
      .error (.config (.validation [.invalidBindAddress "localhost"])) := by decide +kernel
  refine ⟨hasked, hfirst, hsecond, ⟨nofun, fun _ => rfl, fun _ => rfl, fun _ => rfl, rfl, rfl, rfl⟩,
    ?_, ?_⟩
  · intro mayListen environment hlisten
    rw [ofArguments_of_serve hasked]
    unfold StartUp.ofOptions
    rw [hsettled]
    exact if_pos hlisten
  · intro mayListen environment
    rw [ofArguments_of_serve hasked]
    unfold StartUp.ofOptions
    rw [hrefused]
    have hlines : (StartFailure.config (.validation [.invalidBindAddress "localhost"])).lines =
        ["Error: Validation([InvalidBindAddress(\"localhost\")])"] := by decide +kernel
    dsimp only
    rw [hlines]

end PagePreview
