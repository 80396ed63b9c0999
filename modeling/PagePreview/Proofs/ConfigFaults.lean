import Mathlib.Data.List.Sort
import Mathlib.Data.Prod.Lex
import PagePreview.Proofs.Overrides

/-!
# What is reported of a configuration

What is at fault is said setting by setting, without regard to how the checks are made. The checks
report every fault once, in the order of the settings and of the places in a list; there is only one
such list. So no fault hides another one or moves its place, a configuration is accepted exactly if
nothing is at fault, and a value that is mended takes its own fault from the report and no other.
-/

namespace PagePreview

/-! ## The order of a report -/

namespace ConfigFault

/-- The number of the check that finds a fault. -/
def check : ConfigFault → Nat
  | .invalidBindAddress _ => 0
  | .invalidMetricsAddress _ => 1
  | .zeroTimeout => 2
  | .emptyRuleFile _ => 3
  | .emptyDataPath _ => 4

/-- The place of a fault in the list that its check goes through. -/
def place : ConfigFault → Nat
  | .emptyRuleFile index => index
  | .emptyDataPath index => index
  | _ => 0

/-- Where a fault stands in a report. -/
def rank (f : ConfigFault) : Nat ×ₗ Nat := toLex (f.check, f.place)

/-- One fault is reported before another one. -/
def Before (f g : ConfigFault) : Prop := f.rank < g.rank

instance : Std.Irrefl Before := ⟨fun f => lt_irrefl f.rank⟩

instance : Std.Antisymm Before := ⟨fun _ _ hf hg => absurd hg (lt_asymm hf)⟩

/-- Faults come in the order of the checks, and those of one check in the order of their places. -/
theorem before_iff {f g : ConfigFault} :
    Before f g ↔ f.check < g.check ∨ f.check = g.check ∧ f.place < g.place :=
  Prod.Lex.lt_iff

end ConfigFault

namespace Config

open ConfigFault (Before)

/-! ## What is at fault -/

/-- What a fault says of a configuration is so. -/
def AtFault (c : Config) : ConfigFault → Prop
  | .invalidBindAddress text =>
    SocketAddress.parse? c.listener.bindAddress = none ∧ text = c.listener.bindAddress
  | .invalidMetricsAddress text => c.observability.metricsEnabled = true ∧
      SocketAddress.parse? c.observability.metricsAddress = none ∧
      text = c.observability.metricsAddress
  | .zeroTimeout => c.proxy.timeoutSecs = some 0
  | .emptyRuleFile index => c.rewrite.ruleFiles[index]? = some ""
  | .emptyDataPath index => c.fixtures.dataPaths[index]? = some ""

/-- One configuration is another one with the value at fault replaced by one that is not. -/
inductive Mends (c : Config) : ConfigFault → Config → Prop
  /-- Another address to listen on. -/
  | bindAddress {text address : String} (h : (SocketAddress.parse? address).isSome) :
      Mends c (.invalidBindAddress text)
        { c with listener := { c.listener with bindAddress := address } }
  /-- Another address of the counters. -/
  | metricsAddress {text address : String} (h : (SocketAddress.parse? address).isSome) :
      Mends c (.invalidMetricsAddress text)
        { c with observability := { c.observability with metricsAddress := address } }
  /-- Another time limit, or none. -/
  | timeout {limit : Option Nat} (h : limit ≠ some 0) :
      Mends c .zeroTimeout { c with proxy := { c.proxy with timeoutSecs := limit } }
  /-- Another rule file at the place. -/
  | ruleFile {index : Nat} {file : String} (h : file ≠ "") :
      Mends c (.emptyRuleFile index)
        { c with rewrite := { c.rewrite with ruleFiles := c.rewrite.ruleFiles.set index file } }
  /-- Another data root at the place. -/
  | dataPath {index : Nat} {root : String} (h : root ≠ "") :
      Mends c (.emptyDataPath index)
        { c with fixtures := { c.fixtures with dataPaths := c.fixtures.dataPaths.set index root } }

variable {c mended : Config} {f : ConfigFault}

/-- Where a text that is not empty is put in, all other empty texts stay at their places. -/
theorem empty_set_iff {texts : List String} {index place : Nat} {text : String} (h : text ≠ "") :
    (texts.set index text)[place]? = some "" ↔ texts[place]? = some "" ∧ place ≠ index := by
  rw [List.getElem?_set]
  by_cases hsame : index = place
  · rw [if_pos hsame]
    simp [hsame, h]
  · rw [if_neg hsame]
    exact (and_iff_left (Ne.symm hsame)).symm

/-- Mending a value leaves all that is said of other values as it was. -/
theorem Mends.atFault_iff (h : c.Mends f mended) (hf : c.AtFault f) (g : ConfigFault) :
    mended.AtFault g ↔ c.AtFault g ∧ g ≠ f := by
  cases h with
  | bindAddress h =>
    obtain ⟨-, rfl⟩ := hf
    cases g <;> simp [AtFault, Option.isSome_iff_ne_none.mp h]
  | metricsAddress h =>
    obtain ⟨-, -, rfl⟩ := hf
    cases g <;> simp [AtFault, Option.isSome_iff_ne_none.mp h]
  | timeout h => cases g <;> simp [AtFault, h]
  | ruleFile h => cases g <;> simp [AtFault, empty_set_iff h]
  | dataPath h => cases g <;> simp [AtFault, empty_set_iff h]

/-! ## Places in a list -/

/-- The empty texts are found at their own places, however many stand before them. -/
theorem mem_emptyPlaces_iff {first place : Nat} {texts : List String} :
    place ∈ emptyPlaces first texts ↔ first ≤ place ∧ texts[place - first]? = some "" := by
  induction texts generalizing first with
  | nil => simp [emptyPlaces]
  | cons text rest ih =>
    have hrest : place ∈ emptyPlaces (first + 1) rest ↔
        first < place ∧ (text :: rest)[place - first]? = some "" := by
      rw [ih]
      apply and_congr_right
      intro hlt
      rw [show place - first = place - (first + 1) + 1 by omega, List.getElem?_cons_succ]
    unfold emptyPlaces
    by_cases hempty : text.isEmpty = true
    · rw [if_pos hempty, List.mem_cons, hrest]
      rw [String.isEmpty_iff] at hempty
      constructor
      · rintro (rfl | ⟨hlt, hplace⟩)
        · simp [hempty]
        · exact ⟨hlt.le, hplace⟩
      · rintro ⟨hle, hplace⟩
        rcases hle.eq_or_lt with rfl | hlt
        · exact .inl rfl
        · exact .inr ⟨hlt, hplace⟩
    · rw [if_neg hempty, hrest]
      constructor
      · rintro ⟨hlt, hplace⟩
        exact ⟨hlt.le, hplace⟩
      · rintro ⟨hle, hplace⟩
        rcases hle.eq_or_lt with rfl | hlt
        · simp [← String.isEmpty_iff, hempty] at hplace
        · exact ⟨hlt, hplace⟩

/-- Places are found in ascending order. -/
theorem pairwise_emptyPlaces (first : Nat) (texts : List String) :
    (emptyPlaces first texts).Pairwise (· < ·) := by
  induction texts generalizing first with
  | nil => exact List.Pairwise.nil
  | cons text rest ih =>
    unfold emptyPlaces
    split
    · refine List.pairwise_cons.mpr ⟨fun place hplace => ?_, ih (first + 1)⟩
      exact (mem_emptyPlaces_iff.mp hplace).1
    · exact ih (first + 1)

/-! ## The report -/

/-- The faults that are reported are those that the configuration has. -/
theorem mem_faults_iff : f ∈ c.faults ↔ c.AtFault f := by
  have hplaces : ∀ {index : Nat} {texts : List String},
      index ∈ emptyPlaces 0 texts ↔ texts[index]? = some "" := by
    intro index texts
    rw [mem_emptyPlaces_iff]
    exact and_iff_right (Nat.zero_le index)
  unfold faults SocketAddress.isValid
  simp only [List.mem_append, List.mem_map]
  cases f <;> simp [AtFault, hplaces, and_assoc]

/-- The faults of a check are put behind those of all earlier ones. -/
theorem pairwise_append_check (number : Nat) {earlier found : List ConfigFault}
    (he : earlier.Pairwise Before ∧ ∀ f ∈ earlier, f.check < number)
    (hf : found.Pairwise Before ∧ ∀ f ∈ found, f.check = number) :
    (earlier ++ found).Pairwise Before ∧ ∀ f ∈ earlier ++ found, f.check < number + 1 := by
  constructor
  · refine List.pairwise_append.mpr ⟨he.1, hf.1, fun f hfirst g hsecond => ?_⟩
    apply ConfigFault.before_iff.mpr
    left
    rw [hf.2 g hsecond]
    exact he.2 f hfirst
  · intro f hmem
    rcases List.mem_append.mp hmem with hfirst | hsecond
    · exact Nat.lt_succ_of_lt (he.2 f hfirst)
    · exact Nat.lt_succ_of_le (hf.2 f hsecond).le

/-- The faults of a check come before those of a later one, and those of one check in the order of
the places. -/
theorem pairwise_faults (c : Config) : c.faults.Pairwise Before := by
  have hone : ∀ (p : Prop) {_ : Decidable p} (f : ConfigFault),
      (if p then [f] else []).Pairwise Before ∧ ∀ g ∈ if p then [f] else [], g.check = f.check := by
    intro p _ f
    split <;> simp
  have hplaces : ∀ (number : Nat) (texts : List String) (at_ : Nat → ConfigFault),
      (∀ i, (at_ i).check = number ∧ (at_ i).place = i) →
      ((emptyPlaces 0 texts).map at_).Pairwise Before ∧
        ∀ g ∈ (emptyPlaces 0 texts).map at_, g.check = number := by
    intro number texts at_ hat
    constructor
    · refine List.pairwise_map.mpr ((pairwise_emptyPlaces 0 texts).imp fun {i j} hlt => ?_)
      apply ConfigFault.before_iff.mpr
      right
      rw [(hat i).1, (hat j).1, (hat i).2, (hat j).2]
      exact ⟨rfl, hlt⟩
    · intro g hg
      obtain ⟨i, -, rfl⟩ := List.mem_map.mp hg
      exact (hat i).1
  unfold faults
  rw [← ite_not]
  refine And.left (pairwise_append_check 4 ?_ (hplaces 4 _ .emptyDataPath fun _ => ⟨rfl, rfl⟩))
  refine pairwise_append_check 3 ?_ (hplaces 3 _ .emptyRuleFile fun _ => ⟨rfl, rfl⟩)
  refine pairwise_append_check 2 ?_ (hone _ .zeroTimeout)
  refine pairwise_append_check 1 ?_ (hone _ (.invalidMetricsAddress _))
  exact pairwise_append_check 0 ⟨List.Pairwise.nil, nofun⟩ (hone _ (.invalidBindAddress _))

/-- There is one list only that tells every fault once, in this order. -/
theorem eq_faults_of_pairwise {report : List ConfigFault} (hp : report.Pairwise Before)
    (hm : ∀ f, f ∈ report ↔ c.AtFault f) : report = c.faults :=
  hp.eq_of_mem_iff (pairwise_faults c) fun f => (hm f).trans mem_faults_iff.symm

/-- Nothing is reported exactly if the configuration has no fault. -/
theorem faults_eq_nil_iff : c.faults = [] ↔ ∀ f, ¬c.AtFault f := by
  simp only [List.eq_nil_iff_forall_not_mem, mem_faults_iff]

/-- Mending a value takes its fault from the report and leaves the rest as it was. -/
theorem Mends.faults_eq (h : c.Mends f mended) (hf : c.AtFault f) :
    mended.faults = c.faults.erase f := by
  symm
  apply eq_faults_of_pairwise ((pairwise_faults c).sublist List.erase_sublist)
  intro g
  rw [(pairwise_faults c).nodup.mem_erase_iff, h.atFault_iff hf, mem_faults_iff]
  exact and_comm

/-- The report of a configuration tells exactly what is at fault, once, in the order of the checks
and then of the places, and it is the only list that does. A file is used exactly if nothing is at
fault in the configuration that it holds; else all of the report is the reason. And to replace a
value at fault by one that is not takes its fault from the report, which is otherwise the same. -/
theorem every_fault_is_reported_once (c : Config) :
    (∀ f, f ∈ c.faults ↔ c.AtFault f) ∧ c.faults.Pairwise Before ∧
    (∀ report : List ConfigFault, report.Pairwise Before → (∀ f, f ∈ report ↔ c.AtFault f) →
      report = c.faults) ∧
    (∀ disk path, Holds disk path c →
      (load disk path = .ok c ↔ ∀ f, ¬c.AtFault f) ∧
      ∀ f, c.AtFault f → load disk path = .error (.validation c.faults)) ∧
    ∀ f mended, c.AtFault f → c.Mends f mended →
      mended.faults = c.faults.erase f ∧ ∀ g, mended.AtFault g ↔ c.AtFault g ∧ g ≠ f := by
  refine ⟨fun f => mem_faults_iff, pairwise_faults c,
    fun report hp hm => eq_faults_of_pairwise hp hm, ?_,
    fun f mended hf hmends => ⟨hmends.faults_eq hf, hmends.atFault_iff hf⟩⟩
  intro disk path hholds
  rw [load_of_holds hholds]
  constructor
  · rw [← faults_eq_nil_iff]
    simp
  · intro f hf
    rw [if_neg]
    intro hnil
    exact faults_eq_nil_iff.mp hnil f hf

/-- Of a configuration with a fault of every kind, one of two empty rule files is given a name. -/
theorem every_fault_is_reported_once_mended :
    let c : Config :=
      { listener := ⟨"localhost"⟩, rewrite := { ruleFiles := ["", "a.conf", ""] }
        fixtures := { dataPaths := ["test", ""] }, proxy := { timeoutSecs := some 0 }
        observability := { metricsEnabled := true, metricsAddress := "::1" } }
    let disk := configured "[listener]\nbind_address = \"localhost\"
[rewrite]\nrule_files = [\"\", \"a.conf\", \"\"]
[fixtures]\ndata_paths = [\"test\", \"\"]
[proxy]\ntimeout_secs = 0
[observability]\nmetrics_enabled = true\nmetrics_address = \"::1\""
    let mended : Config :=
      { c with rewrite := { c.rewrite with ruleFiles := c.rewrite.ruleFiles.set 0 "b.conf" } }
    c.faults = [.invalidBindAddress "localhost", .invalidMetricsAddress "::1", .zeroTimeout,
      .emptyRuleFile 0, .emptyRuleFile 2, .emptyDataPath 1] ∧
    load disk "a.toml" = .error (.validation c.faults) ∧
    mended.faults = c.faults.erase (.emptyRuleFile 0) := by
  intro c disk mended
  have hfile : c.AtFault (.emptyRuleFile 0) := rfl
  have hholds : Holds disk "a.toml" c := ⟨_, readText_configured _, by decide +kernel⟩
  obtain ⟨-, -, -, hload, hmends⟩ := every_fault_is_reported_once c
  exact ⟨by decide +kernel, (hload disk "a.toml" hholds).2 _ hfile,
    (hmends _ mended hfile (.ruleFile (by decide))).1⟩

end Config

end PagePreview
