import ClusterFeed.Control.Feed
import ClusterFeed.Control.Registry

/-!
# The manager of feeds

The manager keeps one feed per configuration, and enters each in the registry as long as it runs. A
feed is replaced when its settings change, when the types to watch change, or when one of its
informers has ended. A feed whose settings have not changed is left alone when the types to watch
cannot be found out.

`ensure_running`, `stop`, `resync`, `probe_credentials` and `shutdown` are each done here in one go.
When a feed is replaced or stopped it only leaves the table and the registry. That its tasks are
told to stop before and waited for, one after the other, is the matter of
`ClusterFeed.Proofs.Control.TakingDown` and `ClusterFeed.Proofs.Control.Renewal`, and what may
happen under other keys meanwhile that of `ClusterFeed.Proofs.Control.Office`.
-/

namespace ClusterFeed.Control

open Cluster (Failure SecretKey)
open Sync (SyncError CredentialError)

/-- Why the controller fails. -/
inductive ControlError where
  /-- A request to the cluster failed. -/
  | kube (cause : Failure)
  /-- The types to watch could not be found out. -/
  | discovery (cause : String)
  /-- A request to the index failed. -/
  | sync (e : SyncError)
  /-- The token could not be had. -/
  | credential (e : CredentialError)
  /-- A configuration has no namespace. -/
  | missingNamespace (name : String)
  /-- Taking a configuration up failed. -/
  | applyFailed (inner : ControlError)
  /-- Giving a configuration up failed. -/
  | cleanupFailed (inner : ControlError)
  /-- The finalizer could not be added. -/
  | addFinalizer (cause : Failure)
  /-- The finalizer could not be removed. -/
  | removeFinalizer (cause : Failure)
  /-- The configuration has no name. -/
  | unnamedObject
  deriving Inhabited

/-- The text of an error. -/
def ControlError.message : ControlError → String
  | .kube cause => "kube api: " ++ cause.message
  | .discovery cause => "discovery failed: " ++ cause
  | .sync e => e.message
  | .credential e => "credential unavailable: " ++ e.message
  | .missingNamespace name => name ++ " has no namespace"
  | .applyFailed inner => "finalizer: failed to apply object: " ++ inner.message
  | .cleanupFailed inner => "finalizer: failed to clean up object: " ++ inner.message
  | .addFinalizer cause => "finalizer: failed to add finalizer: " ++ cause.message
  | .removeFinalizer cause => "finalizer: failed to remove finalizer: " ++ cause.message
  | .unnamedObject => "finalizer: object has no name"

/-- What has been done to have a feed run. -/
inductive StartOutcome where
  /-- It was started. -/
  | started
  /-- It took the place of another one. -/
  | restarted
  /-- It runs already. -/
  | unchanged
  deriving DecidableEq, Repr, Inhabited

/-- The manager. Times are in nanoseconds. -/
structure Manager where
  /-- What is set for all feeds. -/
  options : Options
  /-- The registry. -/
  registry : Registry
  /-- The feeds by the keys of their configurations. -/
  feeds : TextMap Feed
  /-- The types to watch, if they are given. -/
  pinned : Option (List WatchedType)
  /-- The time. -/
  clock : Nat
  deriving Inhabited

namespace Manager

/-- A manager without feeds. -/
def new (options : Options) : Manager := ⟨options, ∅, ∅, none, 0⟩

/-- Gives the types to watch. -/
def pin (m : Manager) (types : List WatchedType) : Manager := { m with pinned := some types }

/-- Finds out the types to watch. -/
def resolve {σ : Type} (o : Outside σ) (m : Manager) (s : σ) :
    Except ControlError (List WatchedType) × σ :=
  match m.pinned with
  | some types => (.ok types, s)
  | none =>
    let (found, s) := Cluster.discover o.cluster s
    (found.mapError fun e => .discovery e.message, s)

/-- Takes a feed out of the table and out of the registry. -/
def remove (m : Manager) (key : String) : Manager :=
  if m.feeds.contains key then
    { m with feeds := m.feeds.erase key, registry := (m.registry.stop key).2 }
  else m

/-- Enters a feed into the table and into the registry. -/
def install (m : Manager) (key : String) (f : Feed) : Manager :=
  { m with
    feeds := m.feeds.insert key f
    registry := m.registry.start key f.informers.size }

/-- Starts a feed for the types that were found. -/
def launch {σ : Type} (o : Outside σ) (m : Manager) (key scope : String) (settings : Settings)
    (found : Except ControlError (List WatchedType)) (s : σ) : Except ControlError Manager × σ :=
  match found with
  | .error e => (.error e, s)
  | .ok types =>
    match o.makeClient settings s with
    | (.error e, s) => (.error (.sync e), s)
    | (.ok _, s) =>
      let (f, s) := Feed.start o m.options scope settings types m.clock s
      (.ok (m.install key f), s)

/-- Whether a feed may go on as it is: its settings, its types and its informers. -/
def mayGoOn (f : Feed) (found : Except ControlError (List WatchedType)) : Bool :=
  match found with
  | .error _ => true
  | .ok types => f.isHealthy && GvrSet.ofList (types.map (·.gvr)) == f.watchedSet

/-- Puts a new feed into the place of what runs under a key. -/
def replace {σ : Type} (o : Outside σ) (m : Manager) (key scope : String) (settings : Settings)
    (found : Option (Except ControlError (List WatchedType))) (outcome : StartOutcome) (s : σ) :
    (Except ControlError StartOutcome × Manager) × σ :=
  let m := m.remove key
  let (found, s) := match found with
    | some found => (found, s)
    | none => m.resolve o s
  match m.launch o key scope settings found s with
  | (.ok m, s) => ((.ok outcome, m), s)
  | (.error e, s) => ((.error e, m), s)

/-- Has a feed run under a key with the given settings. -/
def ensure {σ : Type} (o : Outside σ) (m : Manager) (key scope : String) (settings : Settings)
    (s : σ) : (Except ControlError StartOutcome × Manager) × σ :=
  match o.connect s with
  | (.error e, s) => ((.error (.kube e), m), s)
  | (.ok _, s) =>
    match m.feeds[key]? with
    | none => m.replace o key scope settings none .started s
    | some f =>
      if f.settings = settings then
        let (found, s) := m.resolve o s
        if mayGoOn f found then ((.ok .unchanged, m), s)
        else m.replace o key scope settings (some found) .restarted s
      else m.replace o key scope settings none .restarted s

/-- Stops a feed; whether there was one. -/
def stop (m : Manager) (key : String) : Bool × Manager :=
  (m.feeds.contains key, m.remove key)

/-- Tells the index everything about one feed now; the number of objects told. -/
def resync {σ : Type} (o : Outside σ) (m : Manager) (key : String) (s : σ) :
    (Except ControlError Nat × Manager) × σ :=
  match m.feeds[key]? with
  | none => ((.ok 0, m), s)
  | some f =>
    match f.resync o m.options s with
    | (.error e, s) => ((.error (.sync e), m), s)
    | (.ok n, s) =>
      let m := if f.notesResync then
          { m with registry := m.registry.recordResync key n (o.now s) }
        else m
      ((.ok n, m), s)

/-- Reads the token of a configuration once, so that a bad secret shows. -/
def probe {σ : Type} (o : Outside σ) (scope : String) (settings : Settings) (s : σ) :
    Except ControlError Unit × σ :=
  match settings.auth with
  | none => (.ok (), s)
  | some place =>
    match o.connect s with
    | (.error e, s) => (.error (.kube e), s)
    | (.ok _, s) =>
      match Cluster.readToken o.cluster scope place s with
      | (.error e, s) => (.error (.credential e), s)
      | (.ok _, s) => (.ok (), s)

/-- Stops all feeds for good, each with one last sending; none when one of them never ends. -/
def finishAll? {σ : Type} (o : Outside σ) (opts : Options) :
    List (String × Feed) → σ → Option σ
  | [], s => some s
  | e :: es, s => (e.2.finish? o opts s).bind (finishAll? o opts es)

/-- Stops everything. -/
def shutdown? {σ : Type} (o : Outside σ) (m : Manager) (s : σ) : Option (Manager × σ) :=
  (finishAll? o m.options m.feeds.toList s).map fun s =>
    ({ m with
        feeds := ∅
        registry := m.feeds.keys.foldl (fun r k => (Registry.stop r k).2) m.registry }, s)

/-- All informers read lines of the watches at a path. -/
def notify {σ : Type} (o : Outside σ) (path : String) (notices : List Cluster.Notice)
    (m : Manager) (s : σ) : Manager × σ :=
  m.feeds.toList.foldl (fun (m, s) e =>
    let (f, s) := e.2.notify o m.options path notices s
    ({ m with feeds := m.feeds.insert e.1 f }, s)) (m, s)

/-- One of the informers of a feed goes on by itself. -/
def resume {σ : Type} (o : Outside σ) (key : String) (place : Seat) (m : Manager) (s : σ) :
    Manager × σ :=
  match m.feeds[key]? with
  | none => (m, s)
  | some f =>
    let (f, s) := f.resume o m.options place s
    ({ m with feeds := m.feeds.insert key f }, s)

/-- The feed that wakes first, if one wakes until a time. -/
def nextWake? (m : Manager) (until_ : Nat) : Option (String × Feed) :=
  m.feeds.toList.foldl (fun best e =>
    if until_ < e.2.wakes then best
    else match best with
      | some b => if e.2.wakes < b.2.wakes then some e else best
      | none => some e) none

/-- Lets the feed that wakes first do what is due. -/
def wakeOne {σ : Type} (o : Outside σ) (m : Manager) (e : String × Feed) (s : σ) : Manager × σ :=
  let now := max m.clock e.2.wakes
  let (told, f, s) := e.2.wake o m.options now s
  let m := { m with clock := now, feeds := m.feeds.insert e.1 f }
  match told with
  | some n => ({ m with registry := m.registry.recordResync e.1 n (o.now s) }, s)
  | none => (m, s)

/-- Time passes until `until_`, with at most `fuel` feeds waking on the way. -/
def passTime {σ : Type} (o : Outside σ) (until_ : Nat) : Nat → Manager → σ → Manager × σ
  | 0, m, s => (m, s)
  | fuel + 1, m, s =>
    match m.nextWake? until_ with
    | none => ({ m with clock := max m.clock until_ }, s)
    | some e =>
      let (m, s) := m.wakeOne o e s
      passTime o until_ fuel m s

/-- Time passes until a resync of a feed has been noted; its count. -/
def awaitResync? {σ : Type} (o : Outside σ) (key : String) :
    Nat → Manager → σ → Option Nat × Manager × σ
  | 0, m, s => (none, m, s)
  | fuel + 1, m, s =>
    match (m.registry[key]?).bind (·.lastResync), m.feeds[key]? with
    | some r, _ => (some r.count, m, s)
    | none, none => (none, m, s)
    | none, some f =>
      match m.nextWake? f.wakes with
      | none => (none, m, s)
      | some e =>
        let (m, s) := m.wakeOne o e s
        awaitResync? o key fuel m s

end Manager

end ClusterFeed.Control
