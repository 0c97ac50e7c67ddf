import ClusterFeed.Watch.Inlet

/-!
# From events to changes

The way of one type's objects from the watch into the intake queue: an event changes the cache, and
what is reported of it goes into the queue.

It is what `dispatch` does with a forwarder behind it.
-/

namespace ClusterFeed.Watch

open Time (Instant)

/-- The cache of a type and the queue into which its changes go. -/
structure Relay where
  /-- The type. -/
  resource : WatchedType
  /-- The cache. -/
  cache : Cache
  /-- The queue. -/
  inlet : Inlet
  deriving Inhabited

namespace Relay

/-- An empty cache and an empty queue. -/
def new (w : WatchedType) (capacity : Nat) : Relay := ⟨w, ∅, ⟨.new capacity, 0⟩⟩

/-- Takes an event in; its reports come first. None when an object has no name. -/
def handle? (now : Instant) (r : Relay) (e : Event) : Option (List Callback × Relay) :=
  (dispatch? r.cache e).map fun (cs, cache) =>
    (cs, { r with cache, inlet := r.inlet.takeAll r.resource now cs })

/-- Takes all changes out of the queue. -/
def drain (r : Relay) : List Change × Relay :=
  let (cs, intake) := r.inlet.intake.drain
  (cs, { r with inlet := { r.inlet with intake } })

/-- Closes the queue. -/
def close (r : Relay) : Relay :=
  { r with inlet := { r.inlet with intake := r.inlet.intake.close } }

end Relay

end ClusterFeed.Watch
