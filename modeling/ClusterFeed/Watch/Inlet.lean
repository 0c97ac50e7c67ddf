import ClusterFeed.Watch.Cache
import ClusterFeed.Buffer.Intake
import ClusterFeed.Resource.Object

/-!
# From reports to changes

What an informer reports becomes changes in the intake queue. A new object and one whose labels
changed are sent as they are now, an object that is gone as its identifier. Nothing waits: what
cannot be written, and what the queue refuses, is counted as dropped.

`take` is `on_add`, `on_update` and `on_delete`, `offer` is `enqueue`, and `drop` is `drop_change`.
The count is a natural number here and does not begin anew after `2 ^ 64` changes.
-/

namespace ClusterFeed.Watch

open Cluster (Manifest)
open Time (Instant)

/-- The queue and the count of what never got into it. -/
structure Inlet where
  /-- The queue. -/
  intake : Intake
  /-- How many changes were dropped. -/
  dropped : Nat
  deriving Inhabited

namespace Inlet

/-- Counts dropped changes. -/
def drop (i : Inlet) (n : Nat) : Inlet := { i with dropped := i.dropped + n }

/-- Offers a change to the queue. -/
def offer (i : Inlet) (c : Change) : Inlet :=
  match i.intake.offer? c with
  | some q => { i with intake := q }
  | none => i.drop 1

/-- Takes a report on an object of the given type. Either state of an updated object that cannot be
written counts for itself. -/
def take (w : WatchedType) (now : Instant) (i : Inlet) : Callback → Inlet
  | .add m =>
    match m.filled? w with
    | some j => i.offer (.upsert (Object.snapshot now j))
    | none => i.drop 1
  | .update old new =>
    match old.filled? w, new.filled? w with
    | some o, some n =>
      if Object.isRelevant o n then i.offer (.upsert (Object.snapshot now n)) else i
    | none, none => i.drop 2
    | _, _ => i.drop 1
  | .delete m =>
    match m.filled? w with
    | some j => i.offer (.delete (Object.identifier j))
    | none => i.drop 1

/-- Takes reports one after the other. -/
def takeAll (w : WatchedType) (now : Instant) (i : Inlet) (cs : List Callback) : Inlet :=
  cs.foldl (take w now) i

end Inlet

end ClusterFeed.Watch
