import ClusterFeed.Watch.Cache
import ClusterFeed.Cluster.Listing

/-!
# Informers

An informer follows the objects of one type. It asks for a list, page by page, and then reads a
watch line by line. When a list fails or the watch cannot be followed any longer it rests for a
while and starts anew with a list; a watch that is closed is opened again.

An object without a name ends the informer. Its cache stays as it was.

This is the task that `spawn` starts, with the stream of events that it reads. How long it rests is
left open.
-/

namespace ClusterFeed.Watch

open Cluster (Manifest Page Notice Access)

/-- What an informer does after it has rested. -/
inductive AfterRest where
  /-- It asks for a list. -/
  | list
  /-- It opens a watch. -/
  | reopen
  /-- It goes on reading the watch. -/
  | goOn
  deriving DecidableEq, Repr, Inhabited

/-- What an informer is doing. -/
inductive Phase where
  /-- It asks for the next page of a list; the objects of the pages before. -/
  | listing (before : List Manifest)
  /-- It opens a watch. -/
  | opening
  /-- It reads a watch. -/
  | watching
  /-- It rests after an error. -/
  | resting (next : AfterRest)
  /-- It has ended. -/
  | ended
  deriving Inhabited

/-- An informer. -/
structure Informer where
  /-- The type that it follows. -/
  resource : WatchedType
  /-- The objects as it saw them last. -/
  cache : Cache
  /-- What it is doing. -/
  phase : Phase
  deriving Inhabited

namespace Informer

/-- An informer at its beginning. -/
def start (w : WatchedType) : Informer := ⟨w, ∅, .listing []⟩

/-- Whether the informer still runs. -/
def isRunning (i : Informer) : Bool :=
  match i.phase with
  | .ended => false
  | _ => true

/-- Whether the informer has a watch open. -/
def isConnected (i : Informer) : Bool :=
  match i.phase with
  | .watching => true
  | .resting .goOn => true
  | _ => false

/-- The informer stops. Its cache stays. -/
def stop (i : Informer) : Informer := { i with phase := .ended }

/-- Takes an event in and goes on with the given phase. -/
def handle (i : Informer) (e : Event) (next : Phase) : List Callback × Informer :=
  match dispatch? i.cache e with
  | some (cs, cache) => (cs, { i with cache := cache, phase := next })
  | none => ([], i.stop)

/-- The informer rests. -/
def rest (i : Informer) (next : AfterRest) : List Callback × Informer :=
  ([], { i with phase := .resting next })

/-- The answer to the request for a page; none when it failed. -/
def onPage (i : Informer) (page : Option (Page Manifest)) : List Callback × Informer :=
  match i.phase with
  | .listing before =>
    match page with
    | none => i.rest .list
    | some p =>
      let all := before ++ p.items
      if p.next.isSome then ([], { i with phase := .listing all })
      else if p.resourceVersion.isSome then i.handle (.restarted all) .opening
      else i.rest .list
  | _ => ([], i)

/-- The answer to the request for a watch: whether it is open. -/
def onOpened (i : Informer) (isOpen : Bool) : Informer :=
  match i.phase with
  | .opening => { i with phase := if isOpen then .watching else .resting .reopen }
  | _ => i

/-- The watch has been closed. -/
def onClosed (i : Informer) : Informer :=
  match i.phase with
  | .watching => { i with phase := .opening }
  | _ => i

/-- Whether an object tells its version. -/
def hasVersion (m : Manifest) : Bool :=
  (Cluster.someText m.metadata.resourceVersion).isSome

/-- A line of the watch. -/
def onNotice (i : Informer) (n : Notice) : List Callback × Informer :=
  match i.phase with
  | .watching =>
    match n with
    | .applied m => if hasVersion m then i.handle (.applied m) .watching else i.rest .list
    | .deleted m => if hasVersion m then i.handle (.deleted m) .watching else i.rest .list
    | .bookmark => ([], i)
    | .blank => ([], i)
    | .expired => i.rest .list
    | .trouble => i.rest .goOn
  | _ => ([], i)

/-- The rest is over. -/
def onRested (i : Informer) : Informer :=
  match i.phase with
  | .resting .list => { i with phase := .listing [] }
  | .resting .reopen => { i with phase := .opening }
  | .resting .goOn => { i with phase := .watching }
  | _ => i

/-- Reads lines of the watch as long as the informer reads. -/
def onNotices (i : Informer) : List Notice → List Callback × Informer
  | [] => ([], i)
  | n :: ns =>
    let (cs, i) := i.onNotice n
    let (rest, i) := i.onNotices ns
    (cs ++ rest, i)

/-- Whether the informer has something to ask the cluster for. -/
def asks (i : Informer) : Bool :=
  match i.phase with
  | .listing _ => true
  | .opening => true
  | _ => false

/-- Asks the cluster for what the informer needs next: a page of its list, or a watch. -/
def ask {σ : Type} (c : Access σ) (i : Informer) (s : σ) : List Callback × Informer × σ :=
  match i.phase with
  | .listing _ =>
    let target := Cluster.pageTarget (Cluster.listPath i.resource)
    let (page, s) := c.fetch target (Page.decode Manifest.decode) s
    let (cs, i) := i.onPage page.toOption
    (cs, i, s)
  | .opening =>
    let (isOpen, s) := c.follow (Cluster.listPath i.resource) s
    ([], i.onOpened isOpen, s)
  | _ => ([], i, s)

/-- The informer goes on by itself: its rest is over, or its watch has been closed, or it asks the
cluster for what it needs next. How long a rest lasts and when a watch is closed is left open. -/
def resume {σ : Type} (c : Access σ) (i : Informer) (s : σ) : List Callback × Informer × σ :=
  match i.phase with
  | .resting _ => ([], i.onRested, s)
  | .watching => ([], i.onClosed, s)
  | _ => i.ask c s

/-- How many requests an informer makes at most until it reads its watch: a list has at most so
many pages, and then the watch is opened. -/
def maxRequests : Nat := 65537

end Informer

end ClusterFeed.Watch
