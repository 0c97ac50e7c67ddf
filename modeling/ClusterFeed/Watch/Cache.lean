import ClusterFeed.Cluster.Manifest

/-!
# The cache of an informer

An informer keeps the objects of its type as it saw them last. Each event of the watch changes the
cache and calls back: an object that was not there is added, one that was there is updated, and one
that is gone is deleted. After a new list the objects that are missing from it are deleted first.

An event with an object that has no name has no outcome at all.

`dispatch?` is `dispatch` together with what it does to the store that it writes.
-/

namespace ClusterFeed.Watch

open Cluster (Manifest Key)

/-- The objects of a type by their keys. -/
abbrev Cache := Std.ExtTreeMap Key Manifest

/-- What a watch tells. -/
inductive Event where
  /-- An object is there, or has changed. -/
  | applied (m : Manifest)
  /-- An object is gone. -/
  | deleted (m : Manifest)
  /-- These are all the objects. -/
  | restarted (ms : List Manifest)
  deriving Inhabited

/-- What an informer reports. -/
inductive Callback where
  /-- An object is there that was not. -/
  | add (new : Manifest)
  /-- An object has changed. -/
  | update (old new : Manifest)
  /-- An object is gone; its last known state. -/
  | delete (last : Manifest)
  deriving Inhabited

namespace Cache

/-- The object under a key, or failing that the one under the same name without a namespace. -/
def find? (cache : Cache) (k : Key) : Option Manifest :=
  cache[k]?.orElse fun _ => cache[(⟨none, k.name⟩ : Key)]?

/-- What is reported of an object that is there. -/
def report (c : Cache) (k : Key) (m : Manifest) : Callback :=
  match c.find? k with
  | some old => .update old m
  | none => .add m

/-- The objects with their keys; none when one of them has no name. -/
def keyed? (ms : List Manifest) : Option (List (Key × Manifest)) :=
  ms.mapM fun m => m.key?.map (·, m)

/-- The cache that holds the given objects; of objects with one key the last. -/
def ofList (ms : List (Key × Manifest)) : Cache :=
  ms.foldl (fun c e => c.insert e.1 e.2) ∅

/-- The objects that are not among the given keys. -/
def missing (c : Cache) (keys : List Key) : List Manifest :=
  (c.filter fun k _ => !keys.contains k).values

end Cache

/-- What an event reports, and the cache after it; none when an object has no name. -/
def dispatch? (c : Cache) : Event → Option (List Callback × Cache)
  | .applied m => m.key?.map fun k => ([c.report k m], c.insert k m)
  | .deleted m => m.key?.map fun k => ([.delete m], c.erase k)
  | .restarted ms => (Cache.keyed? ms).map fun es =>
    ((c.missing (es.map (·.1))).map .delete ++ es.map (fun e => c.report e.1 e.2),
      Cache.ofList es)

/-- Namespace and name of an object, with a dash for what is missing. -/
def place (m : Manifest) : String :=
  m.metadata.scope.getD "-" ++ "/" ++ m.metadata.name.getD "-"

/-- The version of an object, with a dash when it is missing. -/
def versionOf (m : Manifest) : String := m.metadata.resourceVersion.getD "-"

/-- A line that tells a report. -/
def Callback.line : Callback → String
  | .add m => "add " ++ place m ++ " " ++ versionOf m
  | .update old m => "update " ++ place m ++ " " ++ versionOf old ++ "->" ++ versionOf m
  | .delete m => "delete " ++ place m ++ " " ++ versionOf m

/-- A line for each object of a cache. -/
def Cache.lines (c : Cache) : List String :=
  c.values.map fun m => place m ++ " " ++ versionOf m

/-- Whether a report is of an object that is gone. -/
def Callback.isDelete : Callback → Bool
  | .delete _ => true
  | _ => false

/-- The object that an informer reports on. -/
def Callback.subject : Callback → Manifest
  | .add m => m
  | .update _ m => m
  | .delete m => m

end ClusterFeed.Watch
