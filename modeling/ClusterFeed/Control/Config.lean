import ClusterFeed.Cluster.Secret

/-!
# Configurations

A configuration is an object in the cluster that asks for a feed: to which index, how often, and
with which token. Its status is written by the controller and tells how the feed is doing.

`config_key` is the key of a configuration, and `rfc3339` the form of the times in its status.
-/

namespace ClusterFeed.Control

open Cluster (Metadata SecretKey)

/-- What a configuration asks for. -/
structure SyncSpec where
  /-- The address of the index. -/
  endpoint : String
  /-- The seconds between two sendings. -/
  debounceSeconds : Option Int
  /-- The minutes between two resyncs. -/
  resyncMinutes : Option Int
  /-- Where the token stands. -/
  auth : Option SecretKey
  deriving DecidableEq, Repr, Inhabited

/-- A condition of a status. -/
structure Condition where
  /-- What it is about. -/
  about : String
  /-- Whether it holds, in a word. -/
  status : String
  /-- Why, in a word. -/
  reason : String
  /-- Why, in a text for readers. -/
  message : String
  /-- Since when. -/
  since : String
  deriving DecidableEq, Repr, Inhabited

/-- How a feed is doing. -/
structure SyncStatus where
  /-- Whether it runs. -/
  active : Bool
  /-- How many types it watches. -/
  watched : Int
  /-- When the last resync was accepted. -/
  lastResyncTime : Option String
  /-- How many objects it told. -/
  lastResyncCount : Option Int
  /-- The generation of the configuration that the status is about. -/
  observedGeneration : Option Int
  /-- The conditions. -/
  conditions : List Condition
  deriving DecidableEq, Repr, Inhabited

/-- A configuration. -/
structure SyncConfig where
  /-- Its metadata. -/
  metadata : Metadata
  /-- What it asks for. -/
  spec : SyncSpec
  /-- Its status as it was last written. -/
  status : Option SyncStatus
  deriving Inhabited

namespace SyncSpec

open Json.Decode in
/-- Reads what a configuration asks for. -/
def decode : Json.Decoder SyncSpec := fun t => do
  match ← Json.record?
    ["endpoint", "debounceWindowSeconds", "resyncIntervalMinutes", "authSecretRef"] t with
  | [endpoint, debounce, resync, auth] =>
    return ⟨← endpoint.required text, ← debounce.optional int64, ← resync.optional int64,
      ← auth.optional SecretKey.decode⟩
  | _ => none

/-- What a configuration asks for as JSON. -/
def toJson (s : SyncSpec) : Json :=
  .obj ([("endpoint", .str s.endpoint)] ++
    Json.field? "debounceWindowSeconds" Json.int s.debounceSeconds ++
    Json.field? "resyncIntervalMinutes" Json.int s.resyncMinutes ++
    Json.field? "authSecretRef" SecretKey.toJson s.auth)

end SyncSpec

namespace Condition

open Json.Decode in
/-- Reads a condition. -/
def decode : Json.Decoder Condition := fun t => do
  match ← Json.record? ["type", "status", "reason", "message", "lastTransitionTime"] t with
  | [about, status, reason, message, since] =>
    return ⟨← about.required text, ← status.required text, ← reason.required text,
      ← message.required text, ← since.required text⟩
  | _ => none

/-- A condition as JSON. -/
def toJson (c : Condition) : Json :=
  .obj [("type", .str c.about), ("status", .str c.status), ("reason", .str c.reason),
    ("message", .str c.message), ("lastTransitionTime", .str c.since)]

end Condition

namespace SyncStatus

open Json.Decode in
/-- Reads a status. -/
def decode : Json.Decoder SyncStatus := fun t => do
  match ← Json.record?
    ["active", "watchedResources", "lastResyncTime", "lastResyncCount", "observedGeneration",
      "conditions"] t with
  | [active, watched, time, count, generation, conditions] =>
    return ⟨← active.required bool, ← watched.required int64, ← time.optional text,
      ← count.optional int64, ← generation.optional int64,
      ← conditions.orElse [] (list Condition.decode)⟩
  | _ => none

/-- A status as JSON. -/
def toJson (s : SyncStatus) : Json :=
  .obj ([("active", .bool s.active), ("watchedResources", .int s.watched)] ++
    Json.field? "lastResyncTime" .str s.lastResyncTime ++
    Json.field? "lastResyncCount" Json.int s.lastResyncCount ++
    Json.field? "observedGeneration" Json.int s.observedGeneration ++
    [("conditions", .arr (s.conditions.map Condition.toJson))])

end SyncStatus

namespace SyncConfig

/-- Reads a configuration. -/
def decode : Json.Decoder SyncConfig := fun t => do
  match ← Json.record? ["metadata", "spec", "status"] t with
  | [metadata, spec, status] =>
    return ⟨← metadata.required Metadata.decode, ← spec.required SyncSpec.decode,
      ← status.nullable SyncStatus.decode⟩
  | _ => none

/-- The key of a configuration: its namespace and its name. -/
def key (c : SyncConfig) : String :=
  c.metadata.scope.getD "" ++ "/" ++ c.metadata.nameOrStem

/-- The group of configurations. -/
def group : String := "mcpsync.dev"

/-- The version of configurations. -/
def version : String := "v1alpha1"

/-- The kind of configurations. -/
def kind : String := "ResourceSyncConfig"

/-- The plural name of configurations. -/
def plural : String := "resourcesyncconfigs"

/-- Where configurations are found. -/
def root : String := "/apis/" ++ group ++ "/" ++ version

/-- The path of all configurations. -/
def listPath : String := root ++ "/" ++ plural

/-- The path of the configuration with the given namespace and name. -/
def path (scope name : String) : String :=
  root ++ "/namespaces/" ++ scope ++ "/" ++ plural ++ "/" ++ name

end SyncConfig

end ClusterFeed.Control
