import ClusterFeed.Json.Shape
import ClusterFeed.Text.Base64

/-!
# Schemas of custom types

The parts of a definition that say how objects of its type look and how they are converted. Nothing
here depends on what they say, but a definition in which one of them is malformed cannot be read.
-/

namespace ClusterFeed.Cluster.Schema

open Json Json.Shape

/-- The rules by which a value is checked. -/
def rules : Shape :=
  list (record (all text ["fieldPath", "message", "messageExpression", "reason", "rule"] ++
    all flag ["optionalOldSelf"]))

/-- The fields of a schema. -/
def fields : List (String × Shape) :=
  all text ["$ref", "$schema", "description", "format", "id", "pattern", "title", "type",
    "x-kubernetes-list-type", "x-kubernetes-map-type"] ++
  all flag ["exclusiveMaximum", "exclusiveMinimum", "nullable", "uniqueItems",
    "x-kubernetes-embedded-resource", "x-kubernetes-int-or-string",
    "x-kubernetes-preserve-unknown-fields"] ++
  all (ofDecoder Decode.int64) ["maxItems", "maxLength", "maxProperties", "minItems", "minLength",
    "minProperties"] ++
  all number ["maximum", "minimum", "multipleOf"] ++
  all texts ["required", "x-kubernetes-list-map-keys"] ++
  all any ["default", "example"] ++
  all (list any) ["enum"] ++
  all (list itself) ["allOf", "anyOf", "oneOf"] ++
  all (map itself) ["definitions", "patternProperties", "properties"] ++
  all (orLeaf itself fun t => (Decode.bool t).map fun _ => ())
    ["additionalItems", "additionalProperties"] ++
  [("dependencies", map (orList itself text)), ("items", orList itself itself), ("not", itself),
    ("externalDocs", record (all text ["description", "url"])),
    ("x-kubernetes-validations", rules)]

/-- Reads a schema. -/
def decode : Decoder Unit := itself.decoder fields

/-- What a version says about the look of its objects. -/
def validation : Shape := record [("openAPIV3Schema", leaf decode)]

/-- The parts of a type. -/
def subresources : Shape :=
  record [
    ("scale", record (all text ["labelSelectorPath", "specReplicasPath", "statusReplicasPath"])),
    ("status", any)]

/-- Octets in base 64. -/
def octets : Shape := leaf fun t => ((Decode.text t).bind Text.Base64.decode?).map fun _ => ()

/-- How objects are converted from one version to another. -/
def conversion : Shape :=
  record [
    ("strategy", text),
    ("webhook", record [
      ("clientConfig", record [
        ("caBundle", octets),
        ("service", record (all text ["name", "namespace", "path"] ++
          [("port", ofDecoder Decode.int32)])),
        ("url", text)]),
      ("conversionReviewVersions", texts)])]

/-- A column of a printed table. -/
def column : Shape :=
  record (all text ["description", "format", "jsonPath", "name", "type"] ++
    [("priority", ofDecoder Decode.int32)])

end ClusterFeed.Cluster.Schema
