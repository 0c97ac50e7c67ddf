import ClusterFeed.Control.Settings

/-!
# The definition of configurations

The manifest with which the cluster learns what a configuration is: its names, its columns in lists,
and the schema of what it asks for and of its status.
-/

namespace ClusterFeed.Control

namespace Schema

/-- A schema of one type, with further rules. -/
def ofType (type : String) (rules : List (String × Json)) : Json :=
  .obj (rules ++ [("type", .str type)])

/-- A text. -/
def text : Json := ofType "string" []

/-- An integer of 64 bits. -/
def integer : Json := ofType "integer" [("format", .str "int64")]

/-- A schema with a further rule. -/
def rule (name : String) (value : Json) (schema : Json) : Json :=
  .obj (Json.set schema.fields name value)

/-- A schema with a text for readers. -/
def describe (text : String) (schema : Json) : Json := rule "description" (.str text) schema

/-- A schema of values that may be absent. -/
def nullable (schema : Json) : Json := rule "nullable" (.bool true) schema

/-- A schema of numbers up to a greatest one. -/
def atMost (n : Nat) (schema : Json) : Json := rule "maximum" (.num ⟨false, n, ".0"⟩) schema

/-- A schema of lists, which are empty unless given. -/
def listOf (item : Json) : Json :=
  ofType "array" [("default", .arr []), ("items", item)]

/-- A schema of objects, some of whose fields must be there. -/
def object (required : List String) (fields : List (String × Json)) : Json :=
  ofType "object" [("properties", .obj fields), ("required", Json.texts required)]

end Schema

namespace SyncConfig

open Schema

/-- The schema of where a token stands. -/
def secretSchema : Json :=
  describe "Secret in the configuration's namespace holding the bearer token." <|
    object ["key", "name"] [("key", text), ("name", text)]

/-- The schema of what a configuration asks for. -/
def specSchema : Json :=
  describe "Sync target and timing for one configuration." <|
    object ["endpoint"] [
      ("authSecretRef", nullable secretSchema),
      ("debounceWindowSeconds", nullable <| atMost Settings.maxDebounce.seconds <|
        describe "Defaults to 10 when unset or not positive; at most one hour." integer),
      ("endpoint", text),
      ("resyncIntervalMinutes", nullable <| atMost (Settings.maxResync.seconds / 60) <|
        describe "Defaults to 60 when unset or not positive; at most one week." integer)]

/-- The schema of a condition. -/
def conditionSchema : Json :=
  object ["lastTransitionTime", "message", "reason", "status", "type"] [
    ("lastTransitionTime", text), ("message", text), ("reason", text),
    ("status", describe "\"True\" or \"False\"." text), ("type", text)]

/-- The schema of a status. -/
def statusSchema : Json :=
  object ["active", "watchedResources"] [
    ("active", ofType "boolean" []), ("conditions", listOf conditionSchema),
    ("lastResyncCount", nullable integer), ("lastResyncTime", nullable text),
    ("observedGeneration", nullable integer), ("watchedResources", integer)]

/-- The schema of configurations. -/
def schema : Json :=
  rule "title" (.str kind) <|
    describe "Auto-generated derived type for ResourceSyncConfigSpec via \x60CustomResource\x60" <|
      object ["spec"] [("spec", specSchema), ("status", nullable statusSchema)]

/-- A column in lists of configurations. -/
def column (name type path : String) : Json :=
  .obj [("jsonPath", .str path), ("name", .str name), ("type", .str type)]

/-- The one version of configurations. -/
def versionManifest : Json :=
  .obj [
    ("additionalPrinterColumns", .arr [
      column "Endpoint" "string" ".spec.endpoint",
      column "Watching" "integer" ".status.watchedResources",
      column "Active" "boolean" ".status.active"]),
    ("name", .str version),
    ("schema", .obj [("openAPIV3Schema", schema)]),
    ("served", .bool true),
    ("storage", .bool true),
    ("subresources", .obj [("status", .obj [])])]

/-- The manifest. -/
def manifest : Json :=
  .obj [
    ("apiVersion", .str "apiextensions.k8s.io/v1"),
    ("kind", .str "CustomResourceDefinition"),
    ("metadata", .obj [("name", .str (plural ++ "." ++ group))]),
    ("spec", .obj [
      ("group", .str group),
      ("names", .obj [
        ("categories", .arr []),
        ("kind", .str kind),
        ("plural", .str plural),
        ("shortNames", Json.texts ["rsc"]),
        ("singular", .str "resourcesyncconfig")]),
      ("scope", .str "Namespaced"),
      ("versions", .arr [versionManifest])])]

end SyncConfig

end ClusterFeed.Control
