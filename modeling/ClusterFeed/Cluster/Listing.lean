import ClusterFeed.Cluster.Manifest
import ClusterFeed.Cluster.Reply

/-!
# Lists and watches

What the cluster answers when it is asked for all objects of a type: pages of a list, and then line
by line what has happened since. The last page of a list has no mark from which to go on.
-/

namespace ClusterFeed.Cluster

open Json (member?)

/-- A page of a list. -/
structure Page (α : Type) where
  /-- The objects on it. -/
  items : List α
  /-- The mark from which to go on, if there are more pages. -/
  next : Option String
  /-- The version of the list as a whole. -/
  resourceVersion : Option String
  deriving Inhabited

/-- A text with something in it. -/
def someText (s : Option String) : Option String :=
  s.filter (· != "")

open Json.Decode in
/-- Reads the marks of a page: from where to go on, and the version of the list. -/
def decodeMarks : Json.Decoder (Option String × Option String) := fun t => do
  let fs ← Json.members? t
  let next ← member? fs "continue" text
  let _ ← member? fs "remainingItemCount" int64
  let version ← member? fs "resourceVersion" text
  let _ ← member? fs "selfLink" text
  return (someText next, someText version)

open Json.Decode in
/-- Reads a page. Whatever else it holds is kept. -/
def Page.decode {α : Type} (item : Json.Decoder α) : Json.Decoder (Page α) := fun t => do
  match ← Json.keeping? ["metadata", "items"] t with
  | [marks, items] =>
    let (next, version) ← marks.required decodeMarks
    let items ← items.required (option (list item))
    return ⟨items.getD [], next, version⟩
  | _ => none

/-- What a line of a watch says. -/
inductive Notice where
  /-- An object is there, or has changed. -/
  | applied (m : Manifest)
  /-- An object is gone. -/
  | deleted (m : Manifest)
  /-- Nothing has happened up to now. -/
  | bookmark
  /-- The watch cannot be followed any longer. -/
  | expired
  /-- Something else went wrong, or the line cannot be read. -/
  | trouble
  /-- The line is empty or cut short. -/
  | blank
  deriving Inhabited

namespace Notice

open Json.Decode in
/-- Reads the metadata of a bookmark. -/
def decodeMark : Json.Decoder String := fun t => do
  match ← Json.record? ["resourceVersion", "annotations"] t with
  | [version, annotations] =>
    let _ ← annotations.orElse ∅ (map text)
    version.required text
  | _ => none

open Json.Decode in
/-- Reads a bookmark. Whatever else it holds is kept. -/
def decodeBookmark : Json.Decoder Notice := fun t => do
  match ← Json.keeping? ["apiVersion", "kind", "metadata"] t with
  | [apiVersion, kind, metadata] =>
    let _ ← apiVersion.required text
    let _ ← kind.required text
    let _ ← metadata.required decodeMark
    return .bookmark
  | _ => none

open Json.Decode in
/-- Reads a failure. -/
def decodeFailure : Json.Decoder Notice := fun t => do
  return if (← StatusBody.decode t).code = 410 then .expired else .trouble

open Json.Decode in
/-- What is told of the object of a line, by the word at its beginning. -/
def tellers : List (String × Json.Decoder Notice) :=
  [("ADDED", fun t => (Manifest.decode t).map .applied),
   ("MODIFIED", fun t => (Manifest.decode t).map .applied),
   ("DELETED", fun t => (Manifest.decode t).map .deleted),
   ("BOOKMARK", decodeBookmark),
   ("ERROR", decodeFailure)]

/-- Whether among fields the one named `object` comes before the one named `type`. -/
def isObjectFirst (fs : List (Option String × Json.Tree)) : Bool :=
  (fs.find? fun f => f.1 == some "type" || f.1 == some "object").any (·.1 == some "object")

open Json.Decode in
/-- Reads a line, which may also be an array of a word and an object. An object that comes before
the word that tells what it is has to be kept until then. -/
def decode : Json.Decoder Notice
  | .arr [.text (some word), object] => (tellers.lookup word).bind (· object)
  | .obj fs => do
    match ← Json.record? ["type", "object"] (.obj fs) with
    | [word, object] =>
      let teller ← word.required (oneOf tellers)
      if isObjectFirst fs then object.required keepable
      object.required teller
    | _ => none
  | _ => none

/-- What a line says. -/
def ofLine (line : String) : Notice :=
  let us := Text.unitsOf line
  if Json.isCutShort us then .blank else (decode.read? us).getD .trouble

/-- What the lines of a text say. -/
def ofText (text : String) : List Notice := (text.splitOn "\n").map ofLine

end Notice

/-- The path at which the objects of a type are listed, in all namespaces. -/
def listPath (w : WatchedType) : String :=
  (if w.gvr.group = "" then "/api/" else "/apis/") ++ w.gvr.render

/-- How many objects are on a page at most, as a query tells it. -/
def pageQuery : String := "&limit=500"

/-- The target of a request for a page of the objects at a path. -/
def pageTarget (path : String) : String := path ++ "?" ++ pageQuery

/-- Whether the objects of a type are listed and watched at a path. -/
def isAt (w : WatchedType) (path : String) : Bool :=
  match Target.ofText? (listPath w) with
  | .ok t => t.path == path
  | .error _ => false

end ClusterFeed.Cluster
