import ClusterFeed.Json.Decode
import ClusterFeed.Time.Instant

/-!
# The registry of feeds

Which feeds run at present, by the keys of their configurations, and what is to be reported about
each.

`start`, `stop`, `record_resync`, `is_active` and `snapshot` are those of the registry; when a feed
was started is not kept, since nothing reads it.
-/

namespace ClusterFeed.Control

open Time (Instant)

/-- A resync that was accepted. -/
structure ResyncRecord where
  /-- When. -/
  instant : Instant
  /-- How many objects it told. -/
  count : Nat
  deriving DecidableEq, Repr, Inhabited

/-- What is reported about a feed that runs. -/
structure ActiveEntry where
  /-- How many types it watches. -/
  watched : Nat
  /-- Whether it is active. -/
  active : Bool
  /-- The last resync, if there was one. -/
  lastResync : Option ResyncRecord
  deriving DecidableEq, Repr, Inhabited

/-- A resync as JSON. -/
def ResyncRecord.toJson (r : ResyncRecord) : Json :=
  .obj [("at", .str r.instant.render), ("count", .nat r.count)]

/-- What is reported about a feed as JSON. -/
def ActiveEntry.toJson (e : ActiveEntry) : Json :=
  .obj [("watchedGvrs", .nat e.watched), ("active", .bool e.active),
    ("lastResync", Json.orNull ResyncRecord.toJson e.lastResync)]

/-- The feeds that run. -/
abbrev Registry := TextMap ActiveEntry

namespace Registry

/-- Enters a feed that starts. -/
def start (r : Registry) (key : String) (watched : Nat) : Registry :=
  r.insert key ⟨watched, true, none⟩

/-- Takes a feed out that stops; its entry comes first. -/
def stop (r : Registry) (key : String) : Option ActiveEntry × Registry :=
  (r[key]?, r.erase key)

/-- Notes a resync of a feed that runs. -/
def recordResync (r : Registry) (key : String) (count : Nat) (now : Instant) : Registry :=
  match r[key]? with
  | some e => r.insert key { e with lastResync := some ⟨now, count⟩ }
  | none => r

/-- Whether a feed runs and is active. -/
def isActive (r : Registry) (key : String) : Bool :=
  match r[key]? with
  | some e => e.active
  | none => false

/-- All entries in the order of their keys. -/
def snapshot (r : Registry) : List (String × ActiveEntry) := r.toList

end Registry

end ClusterFeed.Control
