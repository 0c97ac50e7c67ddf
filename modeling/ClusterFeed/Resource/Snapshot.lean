import ClusterFeed.Resource.Identifier
import ClusterFeed.Time.Instant

/-!
# Snapshots

What is sent to the index about a resource: its identity, its labels, a few of its annotations, and
the time at which it was looked at. Nothing else of a resource leaves the cluster.
-/

namespace ClusterFeed

open Time (Instant)

/-- A resource as the index sees it. -/
structure Snapshot where
  /-- The name. -/
  name : String
  /-- The namespace, or the marker of resources without one. -/
  scope : String
  /-- The kind. -/
  kind : String
  /-- The group and version of the API. -/
  apiVersion : String
  /-- The labels. -/
  labels : TextMap String
  /-- The annotations that are passed on. -/
  annotations : TextMap String
  /-- The time of observation. -/
  timestamp : Instant
  deriving DecidableEq

instance : Inhabited Snapshot := ⟨"", "", "", "", ∅, ∅, ⟨0, 0⟩⟩

namespace Snapshot

/-- The identifier of the resource. -/
def identifier (s : Snapshot) : Identifier :=
  .of (some s.scope) s.apiVersion s.kind s.name

/-- The id of the resource. -/
def id (s : Snapshot) : String := s.identifier.id

/-- The fields of a snapshot as JSON, without the time. -/
def timelessFields (s : Snapshot) : List (String × Json) :=
  [("name", .str s.name), ("namespace", .str s.scope), ("kind", .str s.kind),
    ("apiVersion", .str s.apiVersion), ("labels", TextMap.toJson s.labels),
    ("annotations", TextMap.toJson s.annotations)]

/-- The snapshot as JSON. -/
def toJson (s : Snapshot) : Json :=
  .obj (s.timelessFields ++ [("timestamp", .str s.timestamp.render)])

open Json.Decode in
/-- Reads a snapshot; labels and annotations may be missing. -/
def decode : Json.Decoder Snapshot := fun t => do
  match ← Json.record?
    ["name", "namespace", "kind", "apiVersion", "labels", "annotations", "timestamp"] t with
  | [name, ns, kind, apiVersion, labels, annotations, timestamp] =>
    return ⟨← name.required text, ← ns.required text, ← kind.required text,
      ← apiVersion.required text, ← labels.orElse ∅ (map text), ← annotations.orElse ∅ (map text),
      ← Instant.parse? (← timestamp.required text)⟩
  | _ => none

end Snapshot

end ClusterFeed
