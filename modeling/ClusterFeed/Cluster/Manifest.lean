import ClusterFeed.Cluster.Metadata
import ClusterFeed.Resource.Gvr

/-!
# Manifests

An object of any type as the cluster sends it: its type, its metadata, and all its other fields as
they are. The cluster leaves the type out of the objects of a list; `filled?` puts it back, and
gives the JSON from which everything else is told.

`raw_object` is made of `filled?`.
-/

namespace ClusterFeed.Cluster

/-- The type that an object states. -/
structure StatedType where
  /-- Group and version. -/
  apiVersion : String
  /-- The kind. -/
  kind : String
  deriving DecidableEq, Inhabited

/-- An object of any type. -/
structure Manifest where
  /-- Its type, if it states one in full. -/
  types : Option StatedType
  /-- Its metadata. -/
  metadata : Metadata
  /-- All other fields. -/
  content : Json
  deriving Inhabited

/-- What tells the objects of a type apart. -/
structure Key where
  /-- The namespace. -/
  scope : Option String
  /-- The name. -/
  name : String
  deriving DecidableEq, Inhabited

namespace Key

/-- Keys are ordered by namespace, then by name; no namespace comes first. -/
instance : Ord Key where
  compare := compareLex (compareOn (·.scope)) (compareOn (·.name))

instance : Std.TransOrd Key :=
  inferInstanceAs (Std.TransCmp (compareLex (compareOn Key.scope) (compareOn Key.name)))

instance : Std.LawfulEqOrd Key where
  eq_of_compare {a b} h := by
    have h : compareLex (compareOn Key.scope) (compareOn Key.name) a b = .eq := h
    simp only [compareLex, compareOn, Ordering.then_eq_eq, Std.LawfulEqOrd.compare_eq_iff_eq] at h
    cases a; cases b; simp_all

end Key

/-- Takes the type out of the fields of an object. The fields are looked at in order until one of
the two is no text or comes again; what has been looked at is taken out even if no type comes
about. -/
def takeTypes (apiVersion kind : Option String) :
    List (String × Json) → Option StatedType × List (String × Json)
  | [] =>
    match apiVersion, kind with
    | some a, some k => (some ⟨a, k⟩, [])
    | _, _ => (none, [])
  | (name, value) :: fs =>
    if name == "apiVersion" then
      match apiVersion, value with
      | none, .str a => takeTypes (some a) kind fs
      | _, _ => (none, fs)
    else if name == "kind" then
      match kind, value with
      | none, .str k => takeTypes apiVersion (some k) fs
      | _, _ => (none, fs)
    else
      let (types, rest) := takeTypes apiVersion kind fs
      (types, (name, value) :: rest)

namespace Manifest

/-- Reads an object. -/
def decode : Json.Decoder Manifest := fun t => do
  let fs ← Json.members? t
  let metadata ← match Json.given fs "metadata" with
    | [] => some Metadata.empty
    | [m] => Metadata.decode m
    | _ => none
  let others ← (fs.filter (·.1 != "metadata")).mapM fun f => do
    return (f.1, ← Json.Decode.whole f.2)
  let (types, content) := takeTypes none none others
  return ⟨types, metadata, .obj content⟩

/-- What tells the object apart; none when it has no name. -/
def key? (m : Manifest) : Option Key :=
  m.metadata.name.map fun n => ⟨m.metadata.scope, n⟩

/-- The fields of the type. -/
def typeFields (m : Manifest) : List (String × Json) :=
  match m.types with
  | some t => [("apiVersion", .str t.apiVersion), ("kind", .str t.kind)]
  | none => []

/-- The object as JSON. The other fields win over type and metadata; they must be an object or
nothing at all. -/
def toJson? (m : Manifest) : Option Json :=
  let fixed := m.typeFields ++ [("metadata", m.metadata.toJson)]
  match m.content with
  | .obj fs => some (.obj (fs.foldl (fun acc f => Json.set acc f.1 f.2) fixed))
  | .null => some (.obj fixed)
  | _ => none

/-- Whether a field is a text with something in it. -/
def hasText (fs : List (String × Json)) (name : String) : Bool :=
  match (Json.obj fs).text? name with
  | some s => s != ""
  | none => false

/-- The fields with one filled in, unless it is a text with something in it. -/
def fill (name value : String) (fs : List (String × Json)) : List (String × Json) :=
  if hasText fs name then fs else Json.set fs name (.str value)

/-- The object as JSON, with the type filled in from the type that is watched; none when the object
cannot be written. -/
def filled? (w : WatchedType) (m : Manifest) : Option Json :=
  m.toJson?.map fun j =>
    .obj (fill "kind" w.kind (fill "apiVersion" w.gvr.apiVersion j.fields))

end Manifest

end ClusterFeed.Cluster
