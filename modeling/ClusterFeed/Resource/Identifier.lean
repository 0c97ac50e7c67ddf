import ClusterFeed.Json.Decode

/-!
# Identity of resources

The index knows a resource by its namespace, the version of its API, its kind and its name. The four
together make the id, a text in which they are separated by colons. Only names may contain a colon,
and the name comes last, so the id can be taken apart again.

`id` is `build_id`.
-/

namespace ClusterFeed

/-- Stands in place of the namespace of a resource that has none. -/
def clusterScope : String := "_cluster"

/-- What identifies a resource in the index. -/
structure Identifier where
  /-- The namespace, or the marker of resources without one. -/
  scope : String
  /-- The group and version of the API. -/
  apiVersion : String
  /-- The kind. -/
  kind : String
  /-- The name. -/
  name : String
  deriving DecidableEq, Repr, Inhabited

namespace Identifier

/-- The identifier of a resource; no namespace and an empty one are the same. -/
def of (ns : Option String) (apiVersion kind name : String) : Identifier :=
  { scope := match ns with
      | some n => if n = "" then clusterScope else n
      | none => clusterScope
    apiVersion, kind, name }

/-- Whether the resource belongs to no namespace. -/
def isClusterScoped (i : Identifier) : Bool := i.scope == clusterScope

/-- The id of a resource. -/
def id (i : Identifier) : String :=
  i.scope ++ ":" ++ i.apiVersion ++ ":" ++ i.kind ++ ":" ++ i.name

/-- Splits characters at the first colon. -/
def splitColon (cs : List Char) : Option (List Char × List Char) :=
  match cs.dropWhile (· != ':') with
  | _ :: rest => some (cs.takeWhile (· != ':'), rest)
  | [] => none

/-- Takes an id apart: all that follows the third colon is the name. -/
def ofId? (s : String) : Option Identifier := do
  let (scope, cs) ← splitColon s.toList
  let (apiVersion, cs) ← splitColon cs
  let (kind, name) ← splitColon cs
  some ⟨String.ofList scope, String.ofList apiVersion, String.ofList kind, String.ofList name⟩

/-- The identifier as JSON. -/
def toJson (i : Identifier) : Json :=
  .obj [("namespace", .str i.scope), ("apiVersion", .str i.apiVersion), ("kind", .str i.kind),
    ("name", .str i.name)]

open Json.Decode in
/-- Reads an identifier. -/
def decode : Json.Decoder Identifier := fun t => do
  match ← Json.record? ["namespace", "apiVersion", "kind", "name"] t with
  | [ns, apiVersion, kind, name] =>
    return ⟨← ns.required text, ← apiVersion.required text, ← kind.required text,
      ← name.required text⟩
  | _ => none

end Identifier

end ClusterFeed
