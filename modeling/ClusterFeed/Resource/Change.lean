import ClusterFeed.Resource.Snapshot

/-!
# Changes

A change says that the resource with a certain id now looks like its snapshot, or that it is gone.
A change built by `upsert` or `delete` carries the id that its contents determine; one that comes
from elsewhere may carry any.
-/

namespace ClusterFeed

/-- What a change does. -/
inductive ChangeAction where
  /-- The resource exists. -/
  | upsert
  /-- The resource is gone. -/
  | delete
  deriving DecidableEq, Repr, Inhabited

/-- A change of one resource. -/
structure Change where
  /-- What it does. -/
  action : ChangeAction
  /-- The id of the resource. -/
  id : String
  /-- The snapshot, present when the resource exists. -/
  data : Option Snapshot
  /-- The identifier, present when the resource is gone. -/
  deleted : Option Identifier
  deriving DecidableEq, Inhabited

namespace Change

/-- The change to a snapshot. -/
def upsert (s : Snapshot) : Change := ⟨.upsert, s.id, some s, none⟩

/-- The change by which a resource goes. -/
def delete (i : Identifier) : Change := ⟨.delete, i.id, none, some i⟩

/-- Whether the resource exists after the change. -/
def isUpsert (c : Change) : Bool := c.action == .upsert

/-- Whether the resource is gone after the change. -/
def isDelete (c : Change) : Bool := c.action == .delete

/-- The change was built from a snapshot or an identifier. -/
def Built (c : Change) : Prop :=
  (∃ s, c = upsert s) ∨ ∃ i, c = delete i

/-- The name of an action. -/
def actionName : ChangeAction → String
  | .upsert => "Upsert"
  | .delete => "Delete"

/-- The change as JSON. -/
def toJson (c : Change) : Json :=
  .obj [("action", .str (actionName c.action)), ("id", .str c.id),
    ("data", Json.orNull Snapshot.toJson c.data),
    ("delete_identifier", Json.orNull Identifier.toJson c.deleted)]

open Json.Decode in
/-- Reads a change. -/
def decode : Json.Decoder Change := fun t => do
  match ← Json.record? ["action", "id", "data", "delete_identifier"] t with
  | [action, id, data, deleted] =>
    return ⟨← action.required (oneOf [("Upsert", .upsert), ("Delete", .delete)]),
      ← id.required text, ← data.nullable Snapshot.decode, ← deleted.nullable Identifier.decode⟩
  | _ => none

end Change

end ClusterFeed
