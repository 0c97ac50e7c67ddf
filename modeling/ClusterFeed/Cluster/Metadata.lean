import ClusterFeed.Json.Members
import ClusterFeed.Time.Instant

/-!
# Metadata of objects

The part of an object in the cluster that is the same for all types. Fields that are not known are
dropped when metadata is read, and times are kept to the second when it is written.
-/

namespace ClusterFeed.Cluster

open Time (Instant)
open Json (member? memberOr)

/-- The object that owns another one. -/
structure OwnerReference where
  /-- Group and version of the owner. -/
  apiVersion : String
  /-- Whether the owner waits for this object to go. -/
  blockOwnerDeletion : Option Bool
  /-- Whether the owner manages this object. -/
  controller : Option Bool
  /-- The kind of the owner. -/
  kind : String
  /-- The name of the owner. -/
  name : String
  /-- The unique id of the owner. -/
  uid : String
  deriving DecidableEq, Inhabited

/-- Which fields of an object somebody manages. -/
structure ManagedFields where
  /-- Group and version of the fields. -/
  apiVersion : Option String
  /-- The form of the list of fields. -/
  fieldsType : Option String
  /-- The fields. -/
  fields : Option Json
  /-- Who manages them. -/
  manager : Option String
  /-- How they came to be managed. -/
  operation : Option String
  /-- The part of the object that was changed. -/
  subresource : Option String
  /-- When they were changed. -/
  time : Option Instant
  deriving Inhabited

/-- Metadata of an object. -/
structure Metadata where
  /-- The annotations. -/
  annotations : Option (TextMap String)
  /-- When the object was made. -/
  creationTimestamp : Option Instant
  /-- How long it may take to go. -/
  deletionGracePeriod : Option Int
  /-- When it was told to go. -/
  deletionTimestamp : Option Instant
  /-- Who has something to do before it goes. -/
  finalizers : Option (List String)
  /-- The beginning of a name to be made up. -/
  generateName : Option String
  /-- How often its specification changed. -/
  generation : Option Int
  /-- The labels. -/
  labels : Option (TextMap String)
  /-- Who manages which fields. -/
  managedFields : Option (List ManagedFields)
  /-- The name. -/
  name : Option String
  /-- The namespace. -/
  scope : Option String
  /-- The owners. -/
  ownerReferences : Option (List OwnerReference)
  /-- The version of the object. -/
  resourceVersion : Option String
  /-- The address of the object. -/
  selfLink : Option String
  /-- The unique id. -/
  uid : Option String
  deriving Inhabited

/-- A point of time. -/
def instant : Json.Decoder Instant := fun t =>
  (Json.Decode.text t).bind Instant.parse?

/-- A time as JSON. -/
def secondJson (t : Instant) : Json := .str t.renderSeconds

open Json.Decode in
/-- Reads an owner. -/
def OwnerReference.decode : Json.Decoder OwnerReference := fun t => do
  let fs ← Json.members? t
  return ⟨← memberOr "" fs "apiVersion" text, ← member? fs "blockOwnerDeletion" bool,
    ← member? fs "controller" bool, ← memberOr "" fs "kind" text, ← memberOr "" fs "name" text,
    ← memberOr "" fs "uid" text⟩

/-- An owner as JSON. -/
def OwnerReference.toJson (o : OwnerReference) : Json :=
  .obj ([("apiVersion", .str o.apiVersion)] ++
    Json.field? "blockOwnerDeletion" .bool o.blockOwnerDeletion ++
    Json.field? "controller" .bool o.controller ++
    [("kind", .str o.kind), ("name", .str o.name), ("uid", .str o.uid)])

open Json.Decode in
/-- Reads who manages which fields. -/
def ManagedFields.decode : Json.Decoder ManagedFields := fun t => do
  let fs ← Json.members? t
  return ⟨← member? fs "apiVersion" text, ← member? fs "fieldsType" text,
    ← member? fs "fieldsV1" whole, ← member? fs "manager" text, ← member? fs "operation" text,
    ← member? fs "subresource" text, ← member? fs "time" instant⟩

/-- Managed fields as JSON. -/
def ManagedFields.toJson (m : ManagedFields) : Json :=
  .obj (Json.field? "apiVersion" .str m.apiVersion ++ Json.field? "fieldsType" .str m.fieldsType ++
    Json.field? "fieldsV1" id m.fields ++ Json.field? "manager" .str m.manager ++
    Json.field? "operation" .str m.operation ++ Json.field? "subresource" .str m.subresource ++
    Json.field? "time" secondJson m.time)

namespace Metadata

/-- Metadata without anything in it. -/
def empty : Metadata :=
  ⟨none, none, none, none, none, none, none, none, none, none, none, none, none, none, none⟩

open Json.Decode in
/-- Reads metadata. -/
def decode : Json.Decoder Metadata := fun t => do
  let fs ← Json.members? t
  return {
    annotations := ← member? fs "annotations" (map text)
    creationTimestamp := ← member? fs "creationTimestamp" instant
    deletionGracePeriod := ← member? fs "deletionGracePeriodSeconds" int64
    deletionTimestamp := ← member? fs "deletionTimestamp" instant
    finalizers := ← member? fs "finalizers" (list text)
    generateName := ← member? fs "generateName" text
    generation := ← member? fs "generation" int64
    labels := ← member? fs "labels" (map text)
    managedFields := ← member? fs "managedFields" (list ManagedFields.decode)
    name := ← member? fs "name" text
    scope := ← member? fs "namespace" text
    ownerReferences := ← member? fs "ownerReferences" (list OwnerReference.decode)
    resourceVersion := ← member? fs "resourceVersion" text
    selfLink := ← member? fs "selfLink" text
    uid := ← member? fs "uid" text }

/-- Metadata as JSON, with the fields that are there. -/
def toJson (m : Metadata) : Json :=
  .obj (Json.field? "annotations" TextMap.toJson m.annotations ++
    Json.field? "creationTimestamp" secondJson m.creationTimestamp ++
    Json.field? "deletionGracePeriodSeconds" Json.int m.deletionGracePeriod ++
    Json.field? "deletionTimestamp" secondJson m.deletionTimestamp ++
    Json.field? "finalizers" Json.texts m.finalizers ++
    Json.field? "generateName" .str m.generateName ++
    Json.field? "generation" Json.int m.generation ++
    Json.field? "labels" TextMap.toJson m.labels ++
    Json.field? "managedFields" (fun l => .arr (l.map ManagedFields.toJson)) m.managedFields ++
    Json.field? "name" .str m.name ++
    Json.field? "namespace" .str m.scope ++
    Json.field? "ownerReferences" (fun l => .arr (l.map OwnerReference.toJson))
      m.ownerReferences ++
    Json.field? "resourceVersion" .str m.resourceVersion ++
    Json.field? "selfLink" .str m.selfLink ++
    Json.field? "uid" .str m.uid)

/-- The name, or failing that the beginning of a name to be made up. -/
def nameOrStem (m : Metadata) : String :=
  (m.name.orElse fun _ => m.generateName).getD ""

/-- Whether the object has been told to go. -/
def isDeleting (m : Metadata) : Bool := m.deletionTimestamp.isSome

end Metadata

end ClusterFeed.Cluster
