import ClusterFeed.Resource.Snapshot

/-!
# Messages between feed and index

A request carries the snapshots of resources that exist and the ids of resources that are gone; a
resync request carries the snapshots of all resources and replaces what the index holds. The answer
says whether the request was accepted, and which items were refused one by one.

`upserted`, `deleted`, `failures` and `isPartial` are `upserted`, `deleted`, `get_failures` and
`has_partial_failures`.
-/

namespace ClusterFeed.Sync

open Json.Decode

/-- A request to the index. -/
structure Request where
  /-- Resources that exist. -/
  upserts : List Snapshot
  /-- Ids of resources that are gone. -/
  deletes : List String
  /-- Whether the snapshots are all there is. -/
  isResync : Bool
  deriving DecidableEq, Inhabited

/-- How many items were taken. -/
structure Counts where
  /-- Snapshots taken. -/
  upserted : Nat
  /-- Ids removed. -/
  deleted : Nat
  deriving DecidableEq, Repr, Inhabited

/-- An item that was refused. -/
structure Failure where
  /-- Its id. -/
  id : String
  /-- Why it was refused. -/
  error : String
  deriving DecidableEq, Repr, Inhabited

/-- The outcome of a request that failed item by item. -/
structure FailureDetails where
  /-- Snapshots taken. -/
  upserted : Nat
  /-- Ids removed. -/
  deleted : Nat
  /-- The items that were refused. -/
  failures : List Failure
  deriving DecidableEq, Repr, Inhabited

/-- Why a request failed. -/
structure ErrorBody where
  /-- A code for programs. -/
  code : String
  /-- A text for readers. -/
  message : String
  /-- The outcome item by item. -/
  details : Option FailureDetails
  deriving DecidableEq, Repr, Inhabited

/-- The answer of the index. -/
structure Response where
  /-- Whether the request was accepted. -/
  success : Bool
  /-- The counts of an accepted request. -/
  data : Option Counts
  /-- Why the request failed. -/
  error : Option ErrorBody
  deriving DecidableEq, Repr, Inhabited

namespace Request

/-- The request as JSON. -/
def toJson (r : Request) : Json :=
  .obj [("upserts", .arr (r.upserts.map Snapshot.toJson)), ("deletes", Json.texts r.deletes),
    ("isResync", .bool r.isResync)]

/-- Reads a request. -/
def decode : Json.Decoder Request := fun t => do
  match ← Json.record? ["upserts", "deletes", "isResync"] t with
  | [upserts, deletes, isResync] =>
    return ⟨← upserts.required (list Snapshot.decode), ← deletes.required (list text),
      ← isResync.required bool⟩
  | _ => none

end Request

namespace Counts

/-- The counts as JSON. -/
def toJson (c : Counts) : Json :=
  .obj [("upserted", .nat c.upserted), ("deleted", .nat c.deleted)]

/-- Reads counts; a missing one is zero. -/
def decode : Json.Decoder Counts := fun t => do
  match ← Json.record? ["upserted", "deleted"] t with
  | [upserted, deleted] => return ⟨← upserted.orElse 0 nat64, ← deleted.orElse 0 nat64⟩
  | _ => none

end Counts

namespace Failure

/-- The failure as JSON. -/
def toJson (f : Failure) : Json :=
  .obj [("id", .str f.id), ("error", .str f.error)]

/-- Reads a failure. -/
def decode : Json.Decoder Failure := fun t => do
  match ← Json.record? ["id", "error"] t with
  | [id, error] => return ⟨← id.required text, ← error.required text⟩
  | _ => none

end Failure

namespace FailureDetails

/-- The details as JSON. -/
def toJson (d : FailureDetails) : Json :=
  .obj [("upserted", .nat d.upserted), ("deleted", .nat d.deleted),
    ("failures", .arr (d.failures.map Failure.toJson))]

/-- Reads details, all of which may be missing. -/
def decode : Json.Decoder FailureDetails := fun t => do
  match ← Json.record? ["upserted", "deleted", "failures"] t with
  | [upserted, deleted, failures] =>
    return ⟨← upserted.orElse 0 nat64, ← deleted.orElse 0 nat64,
      ← failures.orElse [] (list Failure.decode)⟩
  | _ => none

end FailureDetails

namespace ErrorBody

/-- The error as JSON. -/
def toJson (e : ErrorBody) : Json :=
  .obj ([("code", .str e.code), ("message", .str e.message)] ++
    Json.field? "details" FailureDetails.toJson e.details)

/-- Reads an error, all of whose fields may be missing. -/
def decode : Json.Decoder ErrorBody := fun t => do
  match ← Json.record? ["code", "message", "details"] t with
  | [code, message, details] =>
    return ⟨← code.orElse "" text, ← message.orElse "" text,
      ← details.optional FailureDetails.decode⟩
  | _ => none

end ErrorBody

namespace Response

/-- The outcome item by item, if the answer tells it. -/
def details (r : Response) : Option FailureDetails :=
  r.error.bind (·.details)

/-- How many snapshots were taken, whether or not the whole request was accepted. -/
def upserted (r : Response) : Nat :=
  ((r.data.map (·.upserted)).or (r.details.map (·.upserted))).getD 0

/-- How many ids were removed. -/
def deleted (r : Response) : Nat :=
  ((r.data.map (·.deleted)).or (r.details.map (·.deleted))).getD 0

/-- The items that were refused. -/
def failures (r : Response) : List Failure :=
  (r.details.map (·.failures)).getD []

/-- Whether single items were refused. -/
def isPartial (r : Response) : Bool := !r.failures.isEmpty

/-- The answer as JSON. -/
def toJson (r : Response) : Json :=
  .obj (("success", .bool r.success) :: (Json.field? "data" Counts.toJson r.data ++
    Json.field? "error" ErrorBody.toJson r.error))

/-- Reads an answer. -/
def decode : Json.Decoder Response := fun t => do
  match ← Json.record? ["success", "data", "error"] t with
  | [success, data, error] =>
    return ⟨← success.required bool, ← data.optional Counts.decode,
      ← error.optional ErrorBody.decode⟩
  | _ => none

end Response

end ClusterFeed.Sync
