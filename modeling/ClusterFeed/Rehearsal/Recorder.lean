import ClusterFeed.Buffer.Basic

/-!
# A rehearsed index without a client

An index that does the same with all requests, and keeps what was sent.
-/

namespace ClusterFeed.Rehearsal

open Sync (SyncError Request Response)

/-- What an index does with all requests. -/
inductive Mode where
  /-- It accepts them. -/
  | accepts
  /-- They fail. -/
  | fails (e : SyncError)
  /-- It refuses the items of the given ids. -/
  | refuses (ids : List String)
  deriving Inhabited

/-- The outcome of a request. -/
def Mode.outcome : Mode → Except SyncError Response
  | accepts => .ok ⟨true, none, none⟩
  | fails e => .error e
  | refuses ids =>
    let failures := ids.map fun id => ⟨id, "rejected"⟩
    .error (.partialFailure ⟨false, none, some ⟨"PARTIAL", "", some ⟨0, 0, failures⟩⟩⟩)

/-- The index with what was sent to it, last first. -/
structure Recorder where
  /-- What it does. -/
  mode : Mode
  /-- What was sent, last first. -/
  requests : List Request
  deriving Inhabited

namespace Recorder

/-- An index before the first request. -/
def new (mode : Mode) : Recorder := ⟨mode, []⟩

/-- Sends a request. -/
def send (r : Request) (s : Recorder) : Except SyncError Response × Recorder :=
  (s.mode.outcome, { s with requests := r :: s.requests })

/-- What was sent, in order. -/
def sent (s : Recorder) : List Request := s.requests.reverse

end Recorder

end ClusterFeed.Rehearsal
