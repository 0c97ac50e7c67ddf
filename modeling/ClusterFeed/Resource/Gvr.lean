import ClusterFeed.Json.Decode

/-!
# Types of resources

A type is addressed by the group of its API, the version, and its plural name; the core group is the
empty text. A watched type also tells the kind of its resources and whether they live in namespaces.

`apiVersion` and `isSubresource` are `api_version` and `is_subresource`.
-/

namespace ClusterFeed

/-- Group, version and plural name of a type. -/
structure Gvr where
  /-- The group; empty for the core group. -/
  group : String
  /-- The version. -/
  version : String
  /-- The plural name. -/
  resource : String
  deriving DecidableEq, Repr, Inhabited

namespace Gvr

/-- Types are ordered by group, then version, then plural name. -/
instance : Ord Gvr where
  compare := compareLex (compareOn (·.group)) (compareLex (compareOn (·.version))
    (compareOn (·.resource)))

instance : Std.TransOrd Gvr :=
  inferInstanceAs (Std.TransCmp (compareLex (compareOn Gvr.group)
    (compareLex (compareOn Gvr.version) (compareOn Gvr.resource))))

instance : Std.LawfulEqOrd Gvr where
  eq_of_compare {a b} h := by
    have h : compareLex (compareOn Gvr.group)
      (compareLex (compareOn Gvr.version) (compareOn Gvr.resource)) a b = .eq := h
    simp only [compareLex, compareOn, Ordering.then_eq_eq, Std.LawfulEqOrd.compare_eq_iff_eq] at h
    cases a; cases b; simp_all

/-- The group and version as resources carry them. -/
def apiVersion (g : Gvr) : String :=
  if g.group = "" then g.version else g.group ++ "/" ++ g.version

/-- The text of a type. -/
def render (g : Gvr) : String := g.apiVersion ++ "/" ++ g.resource

/-- Whether the type is a part of another one, such as its status. -/
def isSubresource (g : Gvr) : Bool := g.resource.toList.contains '/'

/-- The group of the definitions of custom types. -/
def definitionGroup : String := "apiextensions.k8s.io"

/-- The plural name of the definitions of custom types. -/
def definitionResource : String := "customresourcedefinitions"

/-- Whether the type is that of the definitions of custom types. -/
def isDefinition (g : Gvr) : Bool :=
  g.group == definitionGroup && g.resource == definitionResource

/-- The type as JSON. -/
def toJson (g : Gvr) : Json :=
  .obj [("group", .str g.group), ("version", .str g.version), ("resource", .str g.resource)]

open Json.Decode in
/-- Reads a type. -/
def decode : Json.Decoder Gvr := fun t => do
  match ← Json.record? ["group", "version", "resource"] t with
  | [group, version, resource] =>
    return ⟨← group.required text, ← version.required text, ← resource.required text⟩
  | _ => none

end Gvr

/-- The types of a list, once each and in order. -/
abbrev GvrSet := Std.ExtTreeMap Gvr Unit

/-- The set of the given types. -/
def GvrSet.ofList (gs : List Gvr) : GvrSet :=
  gs.foldl (fun m g => m.insert g ()) ∅

/-- A type to watch. -/
structure WatchedType where
  /-- The type. -/
  gvr : Gvr
  /-- The kind of its resources. -/
  kind : String
  /-- Whether its resources live in namespaces. -/
  namespaced : Bool
  deriving DecidableEq, Repr, Inhabited

/-- What a client of the cluster needs to address the resources of a type. -/
structure ApiResource where
  /-- The group. -/
  group : String
  /-- The version. -/
  version : String
  /-- Group and version as resources carry them. -/
  apiVersion : String
  /-- The kind. -/
  kind : String
  /-- The plural name. -/
  plural : String
  deriving DecidableEq, Repr, Inhabited

namespace WatchedType

/-- How the type is addressed. -/
def apiResource (w : WatchedType) : ApiResource :=
  ⟨w.gvr.group, w.gvr.version, w.gvr.apiVersion, w.kind, w.gvr.resource⟩

/-- The type that an address stands for. -/
def ofApiResource (a : ApiResource) (namespaced : Bool) : WatchedType :=
  ⟨⟨a.group, a.version, a.plural⟩, a.kind, namespaced⟩

/-- The type as JSON. -/
def toJson (w : WatchedType) : Json :=
  .obj [("gvr", w.gvr.toJson), ("kind", .str w.kind), ("namespaced", .bool w.namespaced)]

/-- The line that shows the type to a reader. -/
def line (w : WatchedType) : String :=
  w.gvr.render ++ " • " ++ w.kind ++ " • " ++ (if w.namespaced then "namespaced" else "cluster")

open Json.Decode in
/-- Reads a type. -/
def decode : Json.Decoder WatchedType := fun t => do
  match ← Json.record? ["gvr", "kind", "namespaced"] t with
  | [gvr, kind, namespaced] =>
    return ⟨← gvr.required Gvr.decode, ← kind.required text, ← namespaced.required bool⟩
  | _ => none

end WatchedType

end ClusterFeed
