import ClusterFeed.Resource.Change
import ClusterFeed.Sync.Error
import ClusterFeed.Time.Duration

/-!
# The buffer of changes

Changes wait in a buffer, one for each id, until they are sent together. A change replaces the one
that waits under its id, but for an upsert behind a delete: the delete has to be sent first.

Sending takes time. It begins by taking all waiting changes out as a batch, and ends with an
outcome; in between more changes may come in. What the index did not take goes back into the buffer,
unless a newer change of the same id has come in meanwhile.

`record` puts a change among the waiting ones by the rules of `merge`. What `flush` does falls into
two halves, `startFlush` and `endFlush`, since changes may come in while the request is on its way;
`requeue` is `Pending.restore` and `mark_flushed` is `markFlushed`. The counters are natural numbers
here, so they do not begin anew after `2 ^ 64` changes, and the time of the last flush is not kept.
-/

namespace ClusterFeed

open Time (Duration)
open Sync (SyncError)

/-- Changes by the id under which they wait. -/
abbrev Pending := TextMap Change

/-- Puts a change among the waiting ones. -/
def Pending.merge (p : Pending) (c : Change) : Pending :=
  match p[c.id]? with
  | some old => if old.isDelete && c.isUpsert then p else p.insert c.id c
  | none => p.insert c.id c

/-- Puts changes back that were not taken; whatever waits under their ids is newer and stays. -/
def Pending.restore (p batch : Pending) : Pending :=
  batch.foldl (fun m id c => if m.contains id then m else m.insert id c) p

/-- Changes that wait, and what became of those that went before. -/
structure Buffer where
  /-- The time between two sendings. -/
  window : Duration
  /-- Whether there is an index to send to. -/
  attached : Bool
  /-- The waiting changes. -/
  pending : Pending
  /-- Snapshots that the index took. -/
  upserts : Nat
  /-- Deletions that the index took. -/
  deletes : Nat
  /-- Sendings of which the index took at least a part. -/
  flushes : Nat
  /-- Changes that never came to wait. -/
  dropped : Nat
  /-- How many changes the index took last time. -/
  lastSize : Option Nat
  deriving DecidableEq, Inhabited

/-- What became of a sending. -/
structure FlushReport where
  /-- Snapshots that were sent. -/
  upserts : Nat
  /-- Deletions that were sent. -/
  deletes : Nat
  /-- Changes put back. -/
  requeued : Nat
  /-- Changes thrown away because there is no index to send to. -/
  discarded : Nat
  deriving DecidableEq, Repr, Inhabited

namespace Buffer

/-- The time between two sendings when none is given. -/
def defaultWindow : Duration := .ofSeconds 10

/-- The longest time between two sendings. -/
def maxWindow : Duration := .ofSeconds (24 * 60 * 60)

/-- The time between two sendings: the default for none, and never more than the longest. -/
def effectiveWindow (d : Duration) : Duration :=
  if d.nanos = 0 then defaultWindow else d.min maxWindow

/-- An empty buffer. -/
def new (window : Duration) (attached : Bool) : Buffer :=
  ⟨effectiveWindow window, attached, ∅, 0, 0, 0, 0, none⟩

/-- Counts a change that never came to wait. -/
def noteDropped (b : Buffer) : Buffer := { b with dropped := b.dropped + 1 }

/-- Takes a change in. A change without id is dropped. -/
def record (b : Buffer) (c : Change) : Buffer :=
  if c.id = "" then b.noteDropped else { b with pending := b.pending.merge c }

/-- Takes changes in one after the other. -/
def recordAll (b : Buffer) (cs : List Change) : Buffer := cs.foldl record b

/-- How a sending begins. -/
inductive FlushStart where
  /-- There is nothing to send, or nobody to send to: it has ended already. -/
  | done (report : FlushReport)
  /-- The batch is on its way. -/
  | inFlight (batch : Pending)

/-- The snapshots of a batch. -/
def batchUpserts (batch : Pending) : List Snapshot :=
  batch.values.filterMap fun c => if c.isUpsert then c.data else none

/-- The ids of a batch whose resources are gone. -/
def batchDeletes (batch : Pending) : List String :=
  batch.values.filterMap fun c => if c.isDelete then some c.id else none

/-- The request that sends a batch. -/
def batchRequest (batch : Pending) : Sync.Request :=
  ⟨batchUpserts batch, batchDeletes batch, false⟩

/-- Begins a sending: all waiting changes are taken out. -/
def startFlush (b : Buffer) : FlushStart × Buffer :=
  let emptied := { b with pending := ∅ }
  if b.pending.isEmpty then (.done ⟨0, 0, 0, 0⟩, emptied)
  else if b.attached then (.inFlight b.pending, emptied)
  else (.done ⟨0, 0, 0, b.pending.size⟩, emptied)

/-- Counts what the index took. -/
def markFlushed (b : Buffer) (upserts deletes size : Nat) : Buffer :=
  { b with
    upserts := b.upserts + upserts
    deletes := b.deletes + deletes
    flushes := b.flushes + 1
    lastSize := some size }

/-- The changes of a batch that an answer refuses one by one. -/
def refusedPart (r : Sync.Response) (batch : Pending) : Pending :=
  batch.filter fun id _ => r.failures.any (·.id == id)

/-- The changes of a batch that an answer does not refuse. -/
def acceptedPart (r : Sync.Response) (batch : Pending) : Pending :=
  batch.filter fun id _ => !r.failures.any (·.id == id)

/-- How many changes are upserts. -/
def countUpserts (p : Pending) : Nat := (p.values.filter Change.isUpsert).length

/-- Ends the sending of a batch. -/
def endFlush (b : Buffer) (batch : Pending) :
    Except SyncError Sync.Response → Except SyncError FlushReport × Buffer
  | .ok _ =>
    let ups := (batchUpserts batch).length
    let dels := (batchDeletes batch).length
    (.ok ⟨ups, dels, 0, 0⟩, b.markFlushed ups dels batch.size)
  | .error e =>
    match e.partial? with
    | some r =>
      let accepted := acceptedPart r batch
      let ups := countUpserts accepted
      let b := b.markFlushed ups (accepted.size - ups) accepted.size
      (.error e, { b with pending := b.pending.restore (refusedPart r batch) })
    | none => (.error e, { b with pending := b.pending.restore batch })

/-- One sending from its beginning to its end, with the outcome it will have. The changes `during`
come in while it is on its way. The requests that were sent come after the outcome. -/
def flush (b : Buffer) (outcome : Except SyncError Sync.Response) (during : List Change) :
    Except SyncError FlushReport × List Sync.Request × Buffer :=
  match b.startFlush with
  | (.done report, b) => (.ok report, [], b)
  | (.inFlight batch, b) =>
    let (report, b) := (b.recordAll during).endFlush batch outcome
    (report, [batchRequest batch], b)

end Buffer

end ClusterFeed
