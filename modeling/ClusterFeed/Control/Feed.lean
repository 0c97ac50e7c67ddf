import ClusterFeed.Buffer.Loop
import ClusterFeed.Control.Outside
import ClusterFeed.Control.Resync
import ClusterFeed.Watch.Informer

/-!
# Feeds

A feed serves one configuration. Its informers put changes into the intake queue, the flush loop
takes them from there into the buffer and sends them on, and now and then a resync tells the index
everything.

There is one place for an informer per type. If a type is named twice, the later informer takes the
place, and the earlier one goes on without a place: it still puts changes into the queue, but is not
stopped with the others.

`start_runtime` starts a feed. `wake` is what `run` of its buffer and its `resync_loop` do when
their time has come, and `finish?` is `shutdown` with a last flush.
-/

namespace ClusterFeed.Control

open Cluster (Access Notice)
open Sync (SyncError)
open Time (Instant)
open Watch (Informer Callback Inlet)

/-- A feed. Times are in nanoseconds. -/
structure Feed where
  /-- Its settings. -/
  settings : Settings
  /-- The namespace of its configuration. -/
  scope : String
  /-- Its informers. -/
  informers : Std.ExtTreeMap Gvr Informer
  /-- Informers that have lost their place. -/
  strays : List Informer
  /-- The flush loop, with the buffer and the queue. -/
  loop : FlushLoop
  /-- How many changes never got into the queue. -/
  dropped : Nat
  /-- When the next resync is due. -/
  resyncDue : Nat
  deriving Inhabited

/-- Where an informer of a feed is. -/
inductive Seat where
  /-- In the place of its type. -/
  | placed (gvr : Gvr)
  /-- Among those that have lost their place, counted from zero. -/
  | stray (n : Nat)
  deriving DecidableEq, Repr, Inhabited

/-- How a feed sends a request. -/
abbrev Send (σ : Type) := Sync.Request → σ → Except SyncError Sync.Response × σ

namespace Feed

/-- The time between two resyncs. -/
def resyncEvery (settings : Settings) : Nat :=
  if settings.resync.nanos = 0 then Settings.defaultResync.nanos else settings.resync.nanos

/-- A feed without informers. -/
def empty (opts : Options) (scope : String) (settings : Settings) (now : Nat) : Feed :=
  let intake := Intake.new (max opts.queueCapacity 1)
  { settings, scope
    informers := ∅
    strays := []
    loop := .start (.new settings.debounce settings.hasTarget) intake now
    dropped := 0
    resyncDue := now + resyncEvery settings }

/-- Puts an informer into its place. -/
def put (f : Feed) (i : Informer) : Feed :=
  let gvr := i.resource.gvr
  { f with
    informers := f.informers.insert gvr i
    strays := match f.informers[gvr]? with
      | some old => f.strays ++ [old]
      | none => f.strays }

/-- All informers. -/
def allInformers (f : Feed) : List Informer := f.strays ++ f.informers.values

/-- The types that the feed watches. -/
def watched (f : Feed) : List Gvr := f.informers.keys

/-- The types that the feed watches, as a set. -/
def watchedSet (f : Feed) : GvrSet := .ofList f.watched

/-- Whether all informers in their places still run. -/
def isHealthy (f : Feed) : Bool := f.informers.values.all Informer.isRunning

/-- The queue, as the informers meet it. -/
def inlet (f : Feed) : Inlet :=
  ⟨if f.loop.isEnded then f.loop.intake.close else f.loop.intake, f.dropped⟩

/-- Puts what an informer reports into the queue. -/
def deliver (w : WatchedType) (now : Instant) (cs : List Callback) (f : Feed) : Feed :=
  let i := f.inlet.takeAll w now cs
  { f with loop := { f.loop with intake := i.intake }, dropped := i.dropped }

/-- Closes the queue once no informer runs any longer. -/
def closeIfAbandoned (f : Feed) : Feed :=
  if f.allInformers.any Informer.isRunning then f
  else { f with loop := { f.loop with intake := f.loop.intake.close } }

/-- What the flush loop sends with; without an index it never sends. -/
def sendOrRefuse {σ : Type} (send : Option (Send σ)) : Send σ :=
  send.getD fun _ s => (.error .cancelled, s)

/-- Lets the flush loop do what it can do at present. -/
def settle {σ : Type} (send : Option (Send σ)) (f : Feed) (s : σ) : Feed × σ :=
  let (loop, s) := f.loop.run (sendOrRefuse send) [] s
  ({ f with loop }, s)

/-- Each of the informers asks the cluster once, and what it finds goes into the queue. -/
def askOnce {σ : Type} (o : Outside σ) : List Informer → Feed → σ → List Informer × Feed × σ
  | [], f, s => ([], f, s)
  | i :: is, f, s =>
    let (cs, i, s) := i.ask o.cluster s
    let (is, f, s) := askOnce o is (f.deliver i.resource (o.now s) cs) s
    (i :: is, f, s)

/-- The informers ask the cluster side by side, so many times at most, until all of them read their
watches, rest or have ended. The flush loop reads what all of them have found before they ask
again. -/
def askAll {σ : Type} (o : Outside σ) (send : Option (Send σ)) :
    Nat → List Informer → Feed → σ → List Informer × Feed × σ
  | 0, is, f, s => (is, f, s)
  | fuel + 1, is, f, s =>
    if is.any Informer.asks then
      let (is, f, s) := askOnce o is f s
      let (f, s) := f.settle send s
      askAll o send fuel is f s
    else (is, f, s)

/-- Starts a feed with an informer for each type. -/
def start {σ : Type} (o : Outside σ) (opts : Options) (scope : String) (settings : Settings)
    (types : List WatchedType) (now : Nat) (s : σ) : Feed × σ :=
  let send := transport o opts scope settings
  let beginning := empty opts scope settings now
  let (is, f, s) := askAll o send Informer.maxRequests (types.map .start) beginning s
  (is.foldl put f).closeIfAbandoned.settle send s

/-- An informer reads lines of its watch, if the watch is at the given path; its reports come
first. -/
def hear (path : String) (notices : List Notice) (i : Informer) : List Callback × Informer :=
  if i.isConnected && Cluster.isAt i.resource path then i.onNotices notices else ([], i)

/-- The informers that have lost their place read lines of the watches at a path. -/
def hearStrays (path : String) (notices : List Notice) (now : Instant) (f : Feed) : Feed :=
  let heard := f.strays.map fun i => (i.resource, hear path notices i)
  heard.foldl (fun f h => f.deliver h.1 now h.2.1) { f with strays := heard.map (·.2.2) }

/-- The informers in their places read lines of the watches at a path. -/
def hearPlaced (path : String) (notices : List Notice) (now : Instant) (f : Feed) : Feed :=
  f.informers.toList.foldl (fun f e =>
    let (cs, i) := hear path notices e.2
    ({ f with informers := f.informers.insert e.1 i }).deliver i.resource now cs) f

/-- All informers read lines of the watches at a path as one batch, and the flush loop reads what
comes of it. -/
def notify {σ : Type} (o : Outside σ) (opts : Options) (path : String) (notices : List Notice)
    (f : Feed) (s : σ) : Feed × σ :=
  let now := o.now s
  let f := (f.hearStrays path notices now).hearPlaced path notices now
  f.closeIfAbandoned.settle (transport o opts f.scope f.settings) s

/-- The informer in a seat. -/
def informerAt? (f : Feed) : Seat → Option Informer
  | .placed gvr => f.informers[gvr]?
  | .stray n => f.strays[n]?

/-- Puts an informer back into its seat. -/
def seat (f : Feed) (i : Informer) : Seat → Feed
  | .placed gvr => { f with informers := f.informers.insert gvr i }
  | .stray n => { f with strays := f.strays.set n i }

/-- One of the informers goes on by itself, and the flush loop reads what comes of it. -/
def resume {σ : Type} (o : Outside σ) (opts : Options) (place : Seat) (f : Feed) (s : σ) :
    Feed × σ :=
  match f.informerAt? place with
  | none => (f, s)
  | some i =>
    let (cs, i, s) := i.resume o.cluster s
    ((f.seat i place).deliver i.resource (o.now s) cs).closeIfAbandoned.settle
      (transport o opts f.scope f.settings) s

/-- What a resync tells from. -/
def sources (f : Feed) : List ResyncSource :=
  f.informers.values.map fun i => ⟨i.resource, i.cache⟩

/-- Whether a resync is to be noted in the registry. -/
def notesResync (f : Feed) : Bool := f.settings.hasTarget && !f.sources.isEmpty

/-- Tells the index everything now; the number of objects told. -/
def resync {σ : Type} (o : Outside σ) (opts : Options) (f : Feed) (s : σ) :
    Except SyncError Nat × σ :=
  resyncOnce f.sources (o.now s) (transport o opts f.scope f.settings) s

/-- When the feed has something to do next. -/
def wakes (f : Feed) : Nat :=
  if f.loop.isEnded then f.resyncDue else min f.resyncDue f.loop.deadline

/-- Does what is due at a time: first a sending, then a resync. The number of objects told comes
with it. -/
def wake {σ : Type} (o : Outside σ) (opts : Options) (now : Nat) (f : Feed) (s : σ) :
    Option Nat × Feed × σ :=
  let (f, s) := { f with loop := { f.loop with now } }.settle
    (transport o opts f.scope f.settings) s
  if f.resyncDue ≤ now then
    let (told, s) := f.resync o opts s
    let f := { f with
      resyncDue := FlushLoop.nextDeadline (resyncEvery f.settings) f.resyncDue now }
    match told with
    | .ok n => (if f.notesResync then some n else none, f, s)
    | .error _ => (none, f, s)
  else (none, f, s)

/-- The informers in their places stop. -/
def stopInformers (f : Feed) : Feed :=
  { f with informers := f.informers.map fun _ i => i.stop }

/-- Stops the feed for good and sends what still waits: the informers stop, the flush loop reads the
queue to its end, and one last batch is sent. None when the queue never ends, because an informer
without a place still runs. -/
def finish? {σ : Type} (o : Outside σ) (opts : Options) (f : Feed) (s : σ) : Option σ :=
  let send := transport o opts f.scope f.settings
  let f := f.stopInformers
  if f.strays.any Informer.isRunning then none
  else
    let (f, s) := f.closeIfAbandoned.settle send s
    match f.loop.buffer.startFlush with
    | (.done _, _) => some s
    | (.inFlight batch, _) => some (sendOrRefuse send (Buffer.batchRequest batch) s).2

end Feed

end ClusterFeed.Control
