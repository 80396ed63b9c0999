import PagePreview.Proofs.Encoding
import PagePreview.Proofs.RuleSources
import PagePreview.Rule.History

/-!
# The rules that were published last

Whatever is done with a store and its files, the store holds the set of the last action that
published one, or its first set if no action did. Which actions publish depends on the policy alone.
A set that comes from files holds the rules of the files as they are at this moment, in order, where
files that cannot be read as text are left out. So between two such actions files may change as they
like without anybody noticing.
-/

namespace PagePreview

namespace RuleSet

/-- The texts of those files that hold one, in order. -/
inductive TextsOf (disk : Disk) : List String → List String → Prop
  /-- No files. -/
  | nil : TextsOf disk [] []
  /-- A file that holds a text. -/
  | text {file text : String} {files texts : List String}
      (holds : disk.read file = .ok (Utf8.encode text)) (rest : TextsOf disk files texts) :
      TextsOf disk (file :: files) (text :: texts)
  /-- A file that is missing, or cannot be read, or holds no text. -/
  | without {file : String} {files texts : List String}
      (holds : ∀ text, disk.read file ≠ .ok (Utf8.encode text)) (rest : TextsOf disk files texts) :
      TextsOf disk (file :: files) texts

/-- A file has a text if it holds the bytes of the text. -/
theorem textOf?_eq_some_iff {disk : Disk} {file text : String} :
    textOf? disk file = some text ↔ disk.read file = .ok (Utf8.encode text) := by
  unfold textOf? Disk.readText
  cases disk.read file with
  | error e => exact ⟨nofun, nofun⟩
  | ok content =>
    dsimp only
    rw [Except.ok.injEq, ← Utf8.decode?_eq_some_iff]
    cases Utf8.decode? content with
    | none => exact ⟨nofun, nofun⟩
    | some found => exact Iff.rfl

/-- Exactly one list of texts is that of some files. -/
theorem textsOf_iff {disk : Disk} {files texts : List String} :
    TextsOf disk files texts ↔ texts = files.filterMap (textOf? disk) := by
  constructor
  · intro h
    induction h with
    | nil => rfl
    | text holds rest ih => rw [List.filterMap_cons, textOf?_eq_some_iff.mpr holds, ih]
    | @without file files texts holds rest ih =>
      have hnone : textOf? disk file = none := by
        rw [Option.eq_none_iff_forall_ne_some]
        exact fun text htext => holds text (textOf?_eq_some_iff.mp htext)
      rw [List.filterMap_cons, hnone, ih]
  · rintro rfl
    induction files with
    | nil => exact .nil
    | cons file files ih =>
      rw [List.filterMap_cons]
      cases htext : textOf? disk file with
      | some text => exact .text (textOf?_eq_some_iff.mp htext) ih
      | none =>
        refine .without (fun text holds => ?_) ih
        rw [textOf?_eq_some_iff.mpr holds] at htext
        cases htext

/-- The rules of files are those of the texts that can be read. -/
theorem load_of_textsOf {disk : Disk} {files texts : List String} (h : TextsOf disk files texts) :
    load disk files = ofSources texts := by
  rw [load_eq_ofSources, textsOf_iff.mp h]

/-- Of any files there are the texts that can be read. -/
theorem exists_textsOf (disk : Disk) (files : List String) : ∃ texts, TextsOf disk files texts :=
  ⟨_, textsOf_iff.mpr rfl⟩

end RuleSet

/-- Whether an action publishes a set under a policy. -/
def StoreAction.publishes (policy : ReloadPolicy) : StoreAction → Bool
  | .replace _ => true
  | .reload => true
  | .forRequest => policy = .perRequest
  | .write _ _ => false
  | .remove _ => false
  | .snapshot => false

/-- Whether an action changes files. -/
def StoreAction.changesFiles : StoreAction → Bool
  | .write _ _ => true
  | .remove _ => true
  | .reload => false
  | .forRequest => false
  | .snapshot => false
  | .replace _ => false

namespace StoredRules

variable {s : StoredRules} {a : StoreAction} {rules : RuleSet}

/-- The set that an action publishes. -/
inductive Publishes (s : StoredRules) : StoreAction → RuleSet → Prop
  /-- A set that is given is published as it is. -/
  | replace (rules : RuleSet) : Publishes s (.replace rules) rules
  /-- The store reads its files. -/
  | reload {texts : List String} (holds : RuleSet.TextsOf s.disk s.store.files texts) :
      Publishes s .reload (.ofSources texts)
  /-- A request makes the store read its files. -/
  | forRequest {texts : List String} (policy : s.store.policy = .perRequest)
      (holds : RuleSet.TextsOf s.disk s.store.files texts) :
      Publishes s .forRequest (.ofSources texts)

/-- The set of the last action that published one, or the first set. -/
inductive LastPublished (s : StoredRules) : List StoreAction → RuleSet → Prop
  /-- No action published a set. -/
  | first {actions : List StoreAction} (silent : ∀ a ∈ actions, ¬a.publishes s.store.policy) :
      LastPublished s actions s.store.published
  /-- After this action none published a set. -/
  | action {before later : List StoreAction} {a : StoreAction} {rules : RuleSet}
      (last : Publishes (s.after before) a rules)
      (silent : ∀ b ∈ later, ¬b.publishes s.store.policy) :
      LastPublished s (before ++ a :: later) rules

/-! ## One action -/

/-- Unless it reads them for every request, a store keeps its rules. -/
theorem forRequest_of_ne {store : RuleStore} (h : store.policy ≠ .perRequest) (disk : Disk) :
    store.forRequest disk = store := by
  unfold RuleStore.forRequest
  cases hpolicy : store.policy with
  | perRequest => exact absurd hpolicy h
  | watch => rfl
  | startup => rfl

/-- A store that reads its rules for every request reloads. -/
theorem forRequest_of_eq {store : RuleStore} (h : store.policy = .perRequest) (disk : Disk) :
    store.forRequest disk = store.reload disk := by
  unfold RuleStore.forRequest
  rw [h]

/-- No action changes which files a store has, or when it reads them. -/
theorem act_keeps (s : StoredRules) (a : StoreAction) :
    (s.act a).store.files = s.store.files ∧ (s.act a).store.policy = s.store.policy := by
  cases a with
  | write path content => exact ⟨rfl, rfl⟩
  | remove path => exact ⟨rfl, rfl⟩
  | reload => exact ⟨rfl, rfl⟩
  | forRequest =>
    by_cases hpolicy : s.store.policy = .perRequest
    · unfold act
      dsimp only
      rw [forRequest_of_eq hpolicy]
      exact ⟨rfl, rfl⟩
    · unfold act
      dsimp only
      rw [forRequest_of_ne hpolicy]
      exact ⟨rfl, rfl⟩
  | snapshot => exact ⟨rfl, rfl⟩
  | replace rules => exact ⟨rfl, rfl⟩

/-- An action that publishes a set leaves the store with this set. -/
theorem Publishes.published_act (h : Publishes s a rules) :
    (s.act a).store.published = rules := by
  cases h with
  | replace rules => rfl
  | reload holds => exact RuleSet.load_of_textsOf holds
  | forRequest policy holds =>
    unfold act
    dsimp only
    rw [forRequest_of_eq policy]
    exact RuleSet.load_of_textsOf holds

/-- The policy says which actions publish a set. -/
theorem exists_publishes (h : a.publishes s.store.policy) : ∃ rules, Publishes s a rules := by
  obtain ⟨texts, htexts⟩ := RuleSet.exists_textsOf s.disk s.store.files
  cases a with
  | write path content => cases h
  | remove path => cases h
  | reload => exact ⟨_, .reload htexts⟩
  | forRequest => exact ⟨_, .forRequest (of_decide_eq_true h) htexts⟩
  | snapshot => cases h
  | replace rules => exact ⟨rules, .replace rules⟩

/-- Any other action leaves the store as it is. -/
theorem store_act_of_silent (h : ¬a.publishes s.store.policy) : (s.act a).store = s.store := by
  cases a with
  | write path content => rfl
  | remove path => rfl
  | reload => exact absurd rfl h
  | forRequest => exact forRequest_of_ne (fun hpolicy => h (decide_eq_true hpolicy)) s.disk
  | snapshot => rfl
  | replace rules => exact absurd rfl h

/-! ## Any number of actions -/

/-- Later actions begin where the earlier ones end. -/
theorem after_append (s : StoredRules) (before later : List StoreAction) :
    s.after (before ++ later) = (s.after before).after later := List.foldl_append

/-- No action changes the files or the policy of a store. -/
theorem after_keeps (s : StoredRules) (actions : List StoreAction) :
    (s.after actions).store.files = s.store.files ∧
      (s.after actions).store.policy = s.store.policy := by
  induction actions generalizing s with
  | nil => exact ⟨rfl, rfl⟩
  | cons a actions ih =>
    obtain ⟨hfiles, hpolicy⟩ := act_keeps s a
    rw [← hfiles, ← hpolicy]
    exact ih (s.act a)

/-- Actions that publish nothing leave the store as it is. -/
theorem store_after_of_silent {actions : List StoreAction}
    (h : ∀ a ∈ actions, ¬a.publishes s.store.policy) : (s.after actions).store = s.store := by
  induction actions generalizing s with
  | nil => rfl
  | cons a actions ih =>
    have hact : (s.act a).store = s.store := store_act_of_silent (h a List.mem_cons_self)
    rw [← hact]
    apply ih
    rw [hact]
    exact fun b hb => h b (List.mem_cons_of_mem a hb)

/-- What is published last after an action is published last with it. -/
theorem LastPublished.cons {actions : List StoreAction}
    (h : LastPublished (s.act a) actions rules) : LastPublished s (a :: actions) rules := by
  have hpolicy := (act_keeps s a).2
  cases h with
  | first silent =>
    rw [hpolicy] at silent
    by_cases ha : a.publishes s.store.policy
    · obtain ⟨rules, hrules⟩ := exists_publishes ha
      rw [hrules.published_act, ← List.nil_append (a :: actions)]
      exact .action hrules silent
    · rw [store_act_of_silent ha]
      refine .first fun b hb => ?_
      rcases List.mem_cons.mp hb with rfl | hb
      · exact ha
      · exact silent b hb
  | @action before later b rules last silent =>
    rw [hpolicy] at silent
    rw [← List.cons_append]
    exact .action last silent

/-- The set in the store is that of the last action that published one. -/
theorem lastPublished_iff {actions : List StoreAction} :
    LastPublished s actions rules ↔ (s.after actions).store.published = rules := by
  constructor
  · intro h
    cases h with
    | first silent => rw [store_after_of_silent silent]
    | @action before later a rules last silent =>
      have hpolicy : (s.after (before ++ [a])).store.policy = s.store.policy :=
        (after_keeps s _).2
      rw [← List.singleton_append, ← List.append_assoc, after_append,
        store_after_of_silent (hpolicy ▸ silent), after_append]
      exact last.published_act
  · rintro rfl
    induction actions generalizing s with
    | nil => exact .first nofun
    | cons a actions ih => exact (ih (s := s.act a)).cons

/-- Unless requests make the store read its files, or somebody else does, the store does not depend
on the disk. -/
theorem store_after_filter {s t : StoredRules} {actions : List StoreAction}
    (hstore : t.store = s.store) (hpolicy : s.store.policy ≠ .perRequest)
    (hreload : .reload ∉ actions) :
    (t.after (actions.filter fun a => !a.changesFiles)).store = (s.after actions).store := by
  induction actions generalizing s t with
  | nil => exact hstore
  | cons a actions ih =>
    have hrest : .reload ∉ actions := fun h => hreload (List.mem_cons_of_mem a h)
    have hnext : (s.act a).store.policy ≠ .perRequest := by
      rw [(act_keeps s a).2]
      exact hpolicy
    have hask : t.store.forRequest t.disk = s.store.forRequest s.disk := by
      rw [hstore, forRequest_of_ne hpolicy, forRequest_of_ne hpolicy]
    cases a with
    | write path content => exact ih (s := s.act (.write path content)) hstore hnext hrest
    | remove path => exact ih (s := s.act (.remove path)) hstore hnext hrest
    | reload => exact absurd List.mem_cons_self hreload
    | forRequest => exact ih (s := s.act .forRequest) (t := t.act .forRequest) hask hnext hrest
    | snapshot => exact ih hstore hnext hrest
    | replace rules =>
      exact ih (s := s.act (.replace rules)) (t := t.act (.replace rules))
        (congrArg (RuleStore.replace rules) hstore) hnext hrest

/-- At any time the store answers with the set that was published last. A store that reads its files
answers with what they hold at this moment, and publishes it. Unless requests make it read them,
files may come, change and go without any effect until it is told to read them again. -/
theorem store_answers_from_history (s : StoredRules) (actions : List StoreAction) :
    (∀ rules, (s.after actions).answer? .snapshot = some rules ↔
      LastPublished s actions rules) ∧
    (∃ texts, RuleSet.TextsOf (s.after actions).disk s.store.files texts ∧
      (s.after actions).answer? .reload = some (.ofSources texts) ∧
      (s.after (actions ++ [.reload])).store.published = .ofSources texts ∧
      (s.store.policy = .perRequest →
        (s.after actions).answer? .forRequest = some (.ofSources texts) ∧
        (s.after (actions ++ [.forRequest])).store.published = .ofSources texts)) ∧
    (s.store.policy ≠ .perRequest →
      (s.after actions).answer? .forRequest = (s.after actions).answer? .snapshot ∧
      ∀ later, .reload ∉ later →
        (s.after (actions ++ later)).answer? .forRequest =
          (s.after (actions ++ later.filter fun a => !a.changesFiles)).answer? .forRequest) := by
  obtain ⟨hfiles, hpolicy⟩ := after_keeps s actions
  refine ⟨fun rules => ?_, ?_, fun hne => ?_⟩
  · rw [lastPublished_iff]
    exact Option.some_inj
  · obtain ⟨texts, htexts⟩ := RuleSet.exists_textsOf (s.after actions).disk s.store.files
    have hload : ((s.after actions).store.reload (s.after actions).disk).published =
        .ofSources texts := by
      rw [← hfiles] at htexts
      exact RuleSet.load_of_textsOf htexts
    refine ⟨texts, htexts, congrArg some hload, ?_, fun heq => ?_⟩
    · rw [after_append]
      exact hload
    · have hask := forRequest_of_eq (hpolicy.trans heq) (s.after actions).disk
      rw [← hask] at hload
      refine ⟨congrArg some hload, ?_⟩
      rw [after_append]
      exact hload
  · have hask : ∀ before, (s.after before).answer? .forRequest =
        some (s.after before).store.published := by
      intro before
      have hbefore : (s.after before).store.policy ≠ .perRequest := (after_keeps s before).2 ▸ hne
      exact congrArg (fun store => some store.published) (forRequest_of_ne hbefore _)
    refine ⟨hask actions, fun later hlater => ?_⟩
    rw [hask, hask, after_append, after_append]
    have hsame := store_after_filter (s := s.after actions) rfl (hpolicy ▸ hne) hlater
    rw [hsame]

/-- Two files of which only the first holds a text. -/
def halfReadable (policy : ReloadPolicy) : StoredRules :=
  ⟨((Disk.empty ["srv"]).write "a.conf" (Utf8.encode "rewrite ^ /a")).write "b.conf" [0xFF],
    .ofFiles ["a.conf", "b.conf"] policy⟩

/-- The second file becomes a text and the first one goes. -/
def swapped : List StoreAction :=
  [.write "b.conf" (Utf8.encode "redirect ^ /b"), .remove "a.conf"]

/-- A request notices both changes if it makes the store read its files. If it does not, the store
that has read them before goes on as if nothing had happened. -/
theorem store_answers_from_history_swapped :
    (halfReadable .perRequest).store.policy = .perRequest ∧
    (∃ texts, RuleSet.TextsOf ((halfReadable .perRequest).after swapped).disk
        ["a.conf", "b.conf"] texts ∧
      texts = ["redirect ^ /b"] ∧
      ((halfReadable .perRequest).after swapped).answer? .forRequest =
        some (.ofSources texts)) ∧
    (halfReadable .watch).store.policy ≠ .perRequest ∧ .reload ∉ swapped ∧
    ((halfReadable .watch).after ([.reload] ++ swapped)).answer? .forRequest =
      ((halfReadable .watch).after [.reload]).answer? .forRequest := by
  obtain ⟨_, ⟨texts, htexts, _, _, hask⟩, _⟩ :=
    store_answers_from_history (halfReadable .perRequest) swapped
  obtain ⟨_, _, hunnoticed⟩ := store_answers_from_history (halfReadable .watch) [.reload]
  have hread : texts = ["redirect ^ /b"] := by
    rw [RuleSet.textsOf_iff.mp htexts]
    decide +kernel
  have hreload : .reload ∉ swapped := by
    simp [swapped]
  exact ⟨rfl, ⟨texts, htexts, hread, (hask rfl).1⟩, nofun, hreload,
    (hunnoticed nofun).2 swapped hreload⟩

end StoredRules

end PagePreview
