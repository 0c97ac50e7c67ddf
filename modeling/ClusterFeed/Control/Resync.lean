import ClusterFeed.Sync.Client
import ClusterFeed.Watch.Inlet

/-!
# Resyncs

Now and then the index is told everything there is, so that whatever went wrong before is healed. A
resync tells all objects in the caches of the informers, but not the definitions of custom types;
objects that cannot be written are left out.

`collect` is `collect_resync`, and `resyncOnce` is `resync_once`.
-/

namespace ClusterFeed.Control

open Sync (SyncError)
open Time (Instant)
open Watch (Cache)

/-- The objects of one type. -/
structure ResyncSource where
  /-- The type. -/
  resource : WatchedType
  /-- Its objects. -/
  cache : Cache
  deriving Inhabited

namespace ResyncSource

/-- The snapshots of the objects of a type. -/
def snapshots (now : Instant) (src : ResyncSource) : List Snapshot :=
  src.cache.values.filterMap fun m => (m.filled? src.resource).map (Object.snapshot now)

/-- The snapshots of all objects, but for the definitions of custom types. -/
def collect (now : Instant) (srcs : List ResyncSource) : List Snapshot :=
  (srcs.filter fun src => !src.resource.gvr.isDefinition).flatMap (snapshots now)

/-- The request of a resync. -/
def request (now : Instant) (srcs : List ResyncSource) : Sync.Request :=
  ⟨collect now srcs, [], true⟩

end ResyncSource

/-- Tells the index everything there is; the number of objects told. Without an index, or without
types to watch, nothing is sent. -/
def resyncOnce {σ : Type} (srcs : List ResyncSource) (now : Instant)
    (send : Option (Sync.Request → σ → Except SyncError Sync.Response × σ)) (s : σ) :
    Except SyncError Nat × σ :=
  match send with
  | none => (.ok 0, s)
  | some send =>
    if srcs.isEmpty then (.ok 0, s)
    else
      let r := ResyncSource.request now srcs
      let (answer, s) := send r s
      (answer.map fun _ => r.upserts.length, s)

end ClusterFeed.Control
