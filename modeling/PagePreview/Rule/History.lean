import PagePreview.Rule.Store

/-!
# What is done with a store

Files are written and removed, and in between the store is told to read its files, is given a set,
or is asked for its rules. Whoever makes it read its files, or asks, gets a set as an answer.
-/

namespace PagePreview

/-- Something that is done with a store or with files. -/
inductive StoreAction where
  /-- A file is written. -/
  | write (path : String) (content : Bytes)
  /-- A file is removed. -/
  | remove (path : String)
  /-- The store reads its files again. -/
  | reload
  /-- A request asks for its rules. -/
  | forRequest
  /-- Somebody asks for the rules that were published last. -/
  | snapshot
  /-- A set is published. -/
  | replace (rules : RuleSet)

/-- A store, and the disk on which its files are. -/
structure StoredRules where
  /-- The disk. -/
  disk : Disk
  /-- The store. -/
  store : RuleStore

namespace StoredRules

/-- What an action leaves. -/
def act (s : StoredRules) (a : StoreAction) : StoredRules :=
  match a with
  | .write path content => { s with disk := s.disk.write path content }
  | .remove path => { s with disk := s.disk.remove path }
  | .reload => { s with store := s.store.reload s.disk }
  | .forRequest => { s with store := s.store.forRequest s.disk }
  | .snapshot => s
  | .replace rules => { s with store := s.store.replace rules }

/-- The set that an action gets as an answer. -/
def answer? (s : StoredRules) (a : StoreAction) : Option RuleSet :=
  match a with
  | .write _ _ => none
  | .remove _ => none
  | .reload => some (s.store.reload s.disk).published
  | .forRequest => some (s.store.forRequest s.disk).published
  | .snapshot => some s.store.published
  | .replace _ => none

/-- What actions leave, one after another. -/
def after (s : StoredRules) (actions : List StoreAction) : StoredRules := actions.foldl act s

end StoredRules

end PagePreview
