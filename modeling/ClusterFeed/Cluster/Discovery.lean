import ClusterFeed.Cluster.Definition
import ClusterFeed.Cluster.Listing
import ClusterFeed.Cluster.Version
import ClusterFeed.Resource.Selection

/-!
# Discovery

Which types there are to watch. The groups of the API are asked side by side, each on its own, so
that a group that does not answer takes only its own types away; discovery fails when no group
answers. The definitions of custom types come after that, and a definition counts instead of
whatever its group says about the same type.

`discover` asks with `gather_groups`, takes from each group what is `watchable`, and puts all
together with `merge_discovered`.
-/

namespace ClusterFeed.Cluster

open Json (member? memberOr memberIs)

/-- A version that a group offers. -/
structure OfferedVersion where
  /-- Group and version. -/
  groupVersion : String
  /-- The version. -/
  version : String
  deriving DecidableEq, Repr, Inhabited

/-- A group of the API. -/
structure Group where
  /-- The name. -/
  name : String
  /-- The versions that it offers. -/
  versions : List OfferedVersion
  /-- The version that it prefers. -/
  preferred : Option String
  deriving DecidableEq, Repr, Inhabited

/-- A type as a group tells of it. -/
structure OfferedType where
  /-- The plural name, or that of a part of another type. -/
  name : String
  /-- The kind. -/
  kind : String
  /-- Its group, if it is another one than that of the list. -/
  group : Option String
  /-- Its version, if it is another one than that of the list. -/
  version : Option String
  /-- Whether its objects live in namespaces. -/
  namespaced : Bool
  /-- What can be done with its objects. -/
  verbs : List String
  deriving DecidableEq, Repr, Inhabited

/-- The types of one version of a group. -/
structure TypeList where
  /-- Group and version. -/
  groupVersion : String
  /-- The types. -/
  types : List OfferedType
  deriving DecidableEq, Repr, Inhabited

open Json.Decode in
/-- Reads an offered version. -/
def OfferedVersion.decode : Json.Decoder OfferedVersion := fun t => do
  let fs ← Json.members? t
  return ⟨← memberOr "" fs "groupVersion" text, ← memberOr "" fs "version" text⟩

open Json.Decode in
/-- Reads the address of a server. -/
def decodeServerAddress : Json.Decoder Unit := fun t => do
  let fs ← Json.members? t
  let _ ← member? fs "clientCIDR" text
  let _ ← member? fs "serverAddress" text

/-- The fields of an object of the given kind. -/
def ofKind? (kind : String) (t : Json.Tree) : Option (List (String × Json.Tree)) := do
  let fs ← Json.members? t
  if memberIs fs "apiVersion" "v1" && memberIs fs "kind" kind then some fs else none

open Json.Decode in
/-- Reads a group. -/
def Group.decode : Json.Decoder Group := fun t => do
  let fs ← ofKind? "APIGroup" t
  let preferred ← member? fs "preferredVersion" OfferedVersion.decode
  let _ ← member? fs "serverAddressByClientCIDRs" (list decodeServerAddress)
  return ⟨← memberOr "" fs "name" text, ← memberOr [] fs "versions" (list OfferedVersion.decode),
    preferred.map (·.version)⟩

open Json.Decode in
/-- Reads the list of groups. -/
def decodeGroups : Json.Decoder (List Group) := fun t => do
  memberOr [] (← ofKind? "APIGroupList" t) "groups" (list Group.decode)

open Json.Decode in
/-- Reads the versions of the core group. -/
def decodeCoreVersions : Json.Decoder (List String) := fun t => do
  let fs ← ofKind? "APIVersions" t
  let _ ← member? fs "serverAddressByClientCIDRs" (list decodeServerAddress)
  memberOr [] fs "versions" (list text)

open Json.Decode in
/-- Reads a type. -/
def OfferedType.decode : Json.Decoder OfferedType := fun t => do
  let fs ← Json.members? t
  let _ ← member? fs "categories" (list text)
  let _ ← member? fs "shortNames" (list text)
  let _ ← member? fs "singularName" text
  let _ ← member? fs "storageVersionHash" text
  return ⟨← memberOr "" fs "name" text, ← memberOr "" fs "kind" text, ← member? fs "group" text,
    ← member? fs "version" text, ← memberOr false fs "namespaced" bool,
    ← memberOr [] fs "verbs" (list text)⟩

open Json.Decode in
/-- Reads the types of a version. -/
def TypeList.decode : Json.Decoder TypeList := fun t => do
  let fs ← ofKind? "APIResourceList" t
  return ⟨← memberOr "" fs "groupVersion" text,
    ← memberOr [] fs "resources" (list OfferedType.decode)⟩

namespace TypeList

/-- Group and version as they stand before and behind the first slash; the core group has none. -/
def splitGroupVersion (s : String) : String × String :=
  match s.toList.dropWhile (· != '/') with
  | _ :: version => (String.ofList (s.toList.takeWhile (· != '/')), String.ofList version)
  | [] => ("", s)

/-- Whether objects of a type can be listed and watched. -/
def canFollow (o : OfferedType) : Bool :=
  o.verbs.contains "list" && o.verbs.contains "watch"

/-- The types of the list that can be listed and watched, without parts of types. Of types with one
name the first tells what can be done with them and where they live. -/
def watchable (l : TypeList) : List WatchedType :=
  let (group, version) := splitGroupVersion l.groupVersion
  l.types.filterMap fun o =>
    if o.name.toList.contains '/' then none
    else match l.types.find? (·.name == o.name) with
      | some first =>
        if canFollow first then
          some ⟨⟨o.group.getD group, o.version.getD version, o.name⟩, o.kind, first.namespaced⟩
        else none
      | none => none

end TypeList

/-- The types at the version that counts: the preferred one, or else the one that goes first. -/
def recommended (preferred : Option String) (lists : List (String × TypeList)) :
    List WatchedType :=
  match preferred.orElse fun _ => Version.first? (lists.map (·.1)) with
  | some v => ((lists.lookup v).map TypeList.watchable).getD []
  | none => []

/-- The name under which the core group is reported. -/
def coreGroup : String := ""

/-- How far a group has been asked. -/
inductive Inquiry where
  /-- It is still to be asked which versions there are. -/
  | opening (name : String)
  /-- It is being asked for the types of its versions, which stand at the paths that are left. -/
  | listing (preferred : Option String) (before : List (String × TypeList))
      (left : List (String × String))
  /-- It has been asked for everything, or has failed. -/
  | closed (answer : Except Failure (List WatchedType))

namespace Inquiry

/-- How many requests it takes at least until nothing is left to ask. -/
def requestsLeft : Inquiry → Nat
  | .opening _ => 1
  | .listing _ _ left => left.length
  | .closed _ => 0

/-- What the group has answered. -/
def answer : Inquiry → Except Failure (List WatchedType)
  | .closed a => a
  | .opening _ => .error (.undiscovered "group not asked")
  | .listing preferred before _ => .ok (recommended preferred before)

/-- The core group, after it has told its versions. -/
def ofCore (versions : List String) : Inquiry :=
  if versions.isEmpty then .closed (.error (.undiscovered "empty group"))
  else .listing (some "v1") [] (versions.map fun v => (v, "/api/" ++ v))

/-- The group of the given name, after the cluster has told its groups. -/
def ofGroups (name : String) (groups : List Group) : Inquiry :=
  match groups.find? (·.name == name) with
  | none => .closed (.error (.undiscovered "no such group"))
  | some g =>
    if g.versions.isEmpty then .closed (.error (.undiscovered "empty group"))
    else .listing g.preferred [] (g.versions.map fun v => (v.version, "/apis/" ++ v.groupVersion))

/-- What a request has come to. -/
def ofExcept {α : Type} (f : α → Inquiry) : Except Failure α → Inquiry
  | .ok a => f a
  | .error e => .closed (.error e)

/-- Makes one request. -/
def step {σ : Type} (c : Access σ) (q : Inquiry) (s : σ) : Inquiry × σ :=
  match q with
  | .opening name =>
    if name = coreGroup then
      let (vs, s) := c.fetch "/api" decodeCoreVersions s
      (ofExcept ofCore vs, s)
    else
      let (groups, s) := c.fetch "/apis" decodeGroups s
      (ofExcept (ofGroups name) groups, s)
  | .listing preferred before ((version, path) :: left) =>
    let (l, s) := c.fetch path TypeList.decode s
    (ofExcept (fun l => .listing preferred (before ++ [(version, l)]) left) l, s)
  | .listing preferred before [] => (.listing preferred before [], s)
  | .closed a => (.closed a, s)

/-- Makes one request for each group in turn. -/
def round {σ : Type} (c : Access σ) : List Inquiry → σ → List Inquiry × σ
  | [], s => ([], s)
  | q :: qs, s =>
    let (q, s) := q.step c s
    let (qs, s) := round c qs s
    (q :: qs, s)

/-- Makes one request for each group in turn, so many times. -/
def rounds {σ : Type} (c : Access σ) : Nat → List Inquiry → σ → List Inquiry × σ
  | 0, qs, s => (qs, s)
  | n + 1, qs, s =>
    let (qs, s) := round c qs s
    rounds c n qs s

end Inquiry

/-- Asks all groups at the same time: the first request for each of them, then the second one for
each that is not through, and so on. -/
def fetchGroups {σ : Type} (c : Access σ) (names : List String) (s : σ) :
    List (String × Except Failure (List WatchedType)) × σ :=
  let (qs, s) := Inquiry.round c (names.map .opening) s
  let left := qs.foldl (fun n q => max n q.requestsLeft) 0
  let (qs, s) := Inquiry.rounds c left qs s
  (names.zip (qs.map Inquiry.answer), s)

/-- The types of all groups that answered, and the names of the others. -/
def gatherGroups {ε : Type} (answers : List (String × Except ε (List WatchedType))) :
    List WatchedType × List String :=
  (answers.flatMap fun a => match a.2 with
      | .ok found => found
      | .error _ => [],
   answers.filterMap fun a => match a.2 with
      | .ok _ => none
      | .error _ => some a.1)

/-- Group and plural name, by which types are counted once. -/
def mergeKey (w : WatchedType) : String × String := (w.gvr.group, w.gvr.resource)

/-- Whether a type may be watched at all. -/
def isEligible (w : WatchedType) : Bool :=
  !w.gvr.isSubresource && !Selection.isNoisy w.gvr.group w.gvr.resource

/-- A table of types by group and plural name. -/
abbrev TypeTable :=
  Std.ExtTreeMap (String × String) WatchedType (compareLex (compareOn (·.1)) (compareOn (·.2)))

/-- All types to watch, in the order of group and plural name and each at one version. The type of a
definition takes the place of what the groups say about it. -/
def mergeDiscovered (builtin custom : List WatchedType) : List WatchedType :=
  let builtin := builtin.filter fun w => !custom.any fun c => mergeKey c == mergeKey w
  let table : TypeTable := ((builtin ++ custom).filter isEligible).foldl
    (fun t w => t.insertIfNew (mergeKey w) w) ∅
  table.values

/-- Why discovery fails. -/
inductive DiscoveryError where
  /-- The groups could not be listed. -/
  | groups (cause : Failure)
  /-- No group answered. -/
  | everyGroup (names : List String)
  /-- The definitions of custom types could not be listed. -/
  | definitions (cause : Failure)
  deriving DecidableEq, Repr, Inhabited

namespace DiscoveryError

/-- The text of the error without its cause. -/
def headline : DiscoveryError → String
  | .groups _ => "listing API groups"
  | .everyGroup names => "every API group failed discovery (" ++ ", ".intercalate names ++ ")"
  | .definitions _ => "listing CustomResourceDefinitions"

/-- The text of the error with its cause. -/
def message (e : DiscoveryError) : String :=
  match e with
  | .groups cause => e.headline ++ ": " ++ cause.message
  | .definitions cause => e.headline ++ ": " ++ cause.message
  | .everyGroup _ => e.headline

end DiscoveryError

/-- The path of the definitions of custom types. -/
def definitionsPath : String :=
  "/apis/apiextensions.k8s.io/v1/customresourcedefinitions"

/-- The types of the definitions that give one. -/
def customTypes (ds : List Definition) : List WatchedType :=
  ds.filterMap fun d => d.watched.toOption

/-- All types to watch. -/
def discover {σ : Type} (c : Access σ) (s : σ) :
    Except DiscoveryError (List WatchedType) × σ :=
  match c.fetch "/apis" decodeGroups s with
  | (.error e, s) => (.error (.groups e), s)
  | (.ok groups, s) =>
    let names := coreGroup :: groups.map (·.name)
    let (answers, s) := fetchGroups c names s
    let (builtin, failed) := gatherGroups answers
    if failed.length = names.length then (.error (.everyGroup failed), s)
    else match c.fetch (definitionsPath ++ "?") (Page.decode Definition.decode) s with
      | (.error e, s) => (.error (.definitions e), s)
      | (.ok page, s) => (.ok (mergeDiscovered builtin (customTypes page.items)), s)

end ClusterFeed.Cluster
