import AccessPolicy.Snapshot.TagCache
/-!
# The snapshot store

A store publishes the snapshots it builds from its policy domains.

* Reloading builds a snapshot at one more than the published version. On success the snapshot
  is published and its version becomes the store's; on failure nothing changes. Either way
  every observer is told: of the snapshot, or of why the load failed.
* Loading builds a snapshot the same way and publishes nothing.
* Observing registers an observer for later reloads.
* A query for tags on a snapshot goes through the snapshot's resolver and the store's tag
  cache, which may also drop an entry at any time.

A store reads its domains through a loader, and its outside tag source, when it builds a
snapshot; so each reload or load is given what the loader reads at that moment (the domains, or
why they could not be read) and the tag source as it stands.
-/

namespace AccessPolicy

abbrev ReloadNotice := Except LoadError Snapshot

structure Store where
  current : Option Snapshot := none
  version : Nat := 0
  observers : List (List ReloadNotice) := []
  cache : Option TagCache := none
  deriving Inhabited

namespace Store

def notify (s : Store) (n : ReloadNotice) : Store :=
  { s with observers := s.observers.map (· ++ [n]) }

/-- Builds a snapshot of what the loader read at one more than the published version,
publishing nothing. -/
def load (s : Store) (domains : Except LoadError (List Domain)) (source : Option TagSource) :
    Except LoadError Snapshot := do
  Snapshot.ofDomains (s.version + 1) (← domains) source

/-- Builds a snapshot and publishes it, then tells every observer; a failure publishes nothing
and is told as well. Gives back what the observers were told. -/
def reload (s : Store) (domains : Except LoadError (List Domain)) (source : Option TagSource) :
    Store × ReloadNotice :=
  match s.load domains source with
  | .ok snap => ({ s with current := some snap, version := snap.version }.notify (.ok snap), .ok snap)
  | .error err => (s.notify (.error err), .error err)

def observe (s : Store) : Store :=
  { s with observers := s.observers ++ [[]] }

def tagsFor (s : Store) (snap : Snapshot) (path : ResourcePath) : Store × List String :=
  let (tags, cache) := snap.tagsThrough s.cache path
  ({ s with cache := cache }, tags)
inductive Call where
  | reload (domains : Except LoadError (List Domain)) (source : Option TagSource)
  | load (domains : Except LoadError (List Domain)) (source : Option TagSource)
  | observe
  | tagsFor (snapshot : Snapshot) (path : ResourcePath)
  | drop (key : String)

inductive Answer where
  | reloaded (notice : ReloadNotice)
  | loaded (result : Except LoadError Snapshot)
  | observed
  | tags (tags : List String)
  | dropped
def Answer.published? : Answer → Option Snapshot
  | .reloaded notice => notice.toOption
  | .loaded _ | .observed | .tags _ | .dropped => none

def step (s : Store) : Call → Store × Answer
  | .reload domains source =>
    let (s', n) := s.reload domains source
    (s', .reloaded n)
  | .load domains source => (s, .loaded (s.load domains source))
  | .observe => (s.observe, .observed)
  | .tagsFor snap path =>
    let (s', tags) := s.tagsFor snap path
    (s', .tags tags)
  | .drop key => ({ s with cache := s.cache.map (·.drop key) }, .dropped)

def run (s : Store) : List Call → Store × List Answer
  | [] => (s, [])
  | c :: cs =>
    let (s₁, a) := s.step c
    let (s₂, as) := s₁.run cs
    (s₂, a :: as)

end Store

end AccessPolicy
