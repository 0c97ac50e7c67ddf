import ClusterFeed.Resource.Change
import ClusterFeed.Resource.Selection

/-!
# Resources as the cluster tells them

A resource is a JSON value of any shape. Its identity, its labels and its annotations are read
without ever failing: what is missing or of another type counts as absent.

`identifier`, `snapshot` and `isRelevant` are `identifier_of`, `extract_data` and
`is_relevant_change`.
-/

namespace ClusterFeed.Object

open Time (Instant)

/-- The text at a name inside the metadata. -/
def metaText? (obj : Json) (name : String) : Option String :=
  (obj.get? "metadata").bind (·.text? name)

/-- The fields of a value that are texts. -/
def textMap (j : Option Json) : TextMap String :=
  ((j.map Json.fields).getD []).foldl
    (fun m f => match f.2 with
      | .str s => m.insert f.1 s
      | _ => m.erase f.1) ∅

/-- A map inside the metadata. -/
def metaMap (obj : Json) (name : String) : TextMap String :=
  textMap ((obj.get? "metadata").bind (·.get? name))

/-- The labels. -/
def labels (obj : Json) : TextMap String := metaMap obj "labels"

/-- The identifier. -/
def identifier (obj : Json) : Identifier :=
  .of (metaText? obj "namespace") ((obj.text? "apiVersion").getD "")
    ((obj.text? "kind").getD "") ((metaText? obj "name").getD "")

/-- The snapshot at a given time. -/
def snapshot (now : Instant) (obj : Json) : Snapshot :=
  let i := identifier obj
  { name := i.name
    scope := i.scope
    kind := i.kind
    apiVersion := i.apiVersion
    labels := labels obj
    annotations := (metaMap obj "annotations").filter fun k _ => Selection.passes k
    timestamp := now }

/-- Whether the index has to hear of the step from one state of a resource to the next: only the
labels count. -/
def isRelevant (old new : Json) : Bool :=
  labels old != labels new

end ClusterFeed.Object
