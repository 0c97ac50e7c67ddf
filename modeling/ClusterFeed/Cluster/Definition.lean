import ClusterFeed.Cluster.Metadata
import ClusterFeed.Cluster.Schema
import ClusterFeed.Resource.Gvr

/-!
# Definitions of custom types

A definition tells the group, the names and the versions of a custom type. A type is watched at one
version only: the one in which the cluster stores its objects, or else the first one that it serves.

`watched` is what `crd_resource` makes of a definition.
-/

namespace ClusterFeed.Cluster

open Json (member? memberOr memberIs)

/-- A version of a custom type. -/
structure DefinedVersion where
  /-- The name of the version. -/
  name : String
  /-- Whether the cluster serves it. -/
  served : Bool
  /-- Whether the cluster stores objects in it. -/
  storage : Bool
  deriving DecidableEq, Repr, Inhabited

/-- A definition of a custom type. -/
structure Definition where
  /-- The name of the definition. -/
  name : String
  /-- The group of the type. -/
  group : String
  /-- The plural name of the type. -/
  plural : String
  /-- The kind of its objects. -/
  kind : String
  /-- Whether its objects live in namespaces, as it is written. -/
  scope : String
  /-- Its versions. -/
  versions : List DefinedVersion
  deriving DecidableEq, Repr, Inhabited

/-- Why a definition gives no type to watch. -/
inductive DefinitionError where
  /-- It has no group. -/
  | missingGroup (name : String)
  /-- It has no plural name. -/
  | missingPlural (name : String)
  /-- None of its versions is served. -/
  | noServedVersion (name : String)
  deriving DecidableEq, Repr, Inhabited

/-- The text of such an error. -/
def DefinitionError.message : DefinitionError → String
  | .missingGroup name => "CRD " ++ name ++ " has no spec.group"
  | .missingPlural name => "CRD " ++ name ++ " has no spec.names.plural"
  | .noServedVersion name => "CRD " ++ name ++ " declares no served version"

namespace Definition

/-- The version to watch. -/
def chosenVersion? (vs : List DefinedVersion) : Option DefinedVersion :=
  (vs.find? (·.storage)).orElse fun _ => vs.find? (·.served)

/-- The type to watch for a definition. -/
def watched (d : Definition) : Except DefinitionError WatchedType :=
  if d.group = "" then .error (.missingGroup d.name)
  else if d.plural = "" then .error (.missingPlural d.name)
  else match chosenVersion? d.versions with
    | none => .error (.noServedVersion d.name)
    | some v => .ok ⟨⟨d.group, v.name, d.plural⟩, d.kind, d.scope == "Namespaced"⟩

/-- The names of a type: its plural name and its kind. -/
abbrev Names := String × String

open Json.Decode in
/-- Reads the names of a type. -/
def decodeNames : Json.Decoder Names := fun t => do
  let fs ← Json.members? t
  let _ ← member? fs "categories" (list text)
  let _ ← member? fs "listKind" text
  let _ ← member? fs "shortNames" (list text)
  let _ ← member? fs "singular" text
  return (← memberOr "" fs "plural" text, ← memberOr "" fs "kind" text)

open Json.Decode in
/-- Reads a version. -/
def decodeVersion : Json.Decoder DefinedVersion := fun t => do
  let fs ← Json.members? t
  let _ ← member? fs "additionalPrinterColumns" (list (Schema.column.decoder []))
  let _ ← member? fs "deprecated" bool
  let _ ← member? fs "deprecationWarning" text
  let _ ← member? fs "schema" (Schema.validation.decoder [])
  let _ ← member? fs "subresources" (Schema.subresources.decoder [])
  return ⟨← memberOr "" fs "name" text, ← memberOr false fs "served" bool,
    ← memberOr false fs "storage" bool⟩

open Json.Decode in
/-- Reads a condition of the status. -/
def decodeCondition : Json.Decoder Unit := fun t => do
  let fs ← Json.members? t
  let _ ← member? fs "lastTransitionTime" instant
  let _ ← member? fs "message" text
  let _ ← member? fs "reason" text
  let _ ← member? fs "status" text
  let _ ← member? fs "type" text

open Json.Decode in
/-- Reads the status. -/
def decodeStatus : Json.Decoder Unit := fun t => do
  let fs ← Json.members? t
  let _ ← member? fs "acceptedNames" decodeNames
  let _ ← member? fs "conditions" (list decodeCondition)
  let _ ← member? fs "storedVersions" (list text)

open Json.Decode in
/-- Reads the specification of the definition of the given name. -/
def decodeSpec (name : String) : Json.Decoder Definition := fun t => do
  let fs ← Json.members? t
  let _ ← member? fs "conversion" (Schema.conversion.decoder [])
  let _ ← member? fs "preserveUnknownFields" bool
  let names ← memberOr ("", "") fs "names" decodeNames
  return ⟨name, ← memberOr "" fs "group" text, names.1, names.2, ← memberOr "" fs "scope" text,
    ← memberOr [] fs "versions" (list decodeVersion)⟩

/-- Reads a definition. -/
def decode : Json.Decoder Definition := fun t => do
  let fs ← Json.members? t
  if memberIs fs "apiVersion" "apiextensions.k8s.io/v1" &&
      memberIs fs "kind" "CustomResourceDefinition" then
    let metadata ← memberOr Metadata.empty fs "metadata" Metadata.decode
    let _ ← member? fs "status" decodeStatus
    let name := metadata.nameOrStem
    memberOr ⟨name, "", "", "", "", []⟩ fs "spec" (decodeSpec name)
  else none

end Definition

end ClusterFeed.Cluster
