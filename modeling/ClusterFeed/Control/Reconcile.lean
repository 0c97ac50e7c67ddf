import ClusterFeed.Control.Finalizer
import ClusterFeed.Control.Manager
import ClusterFeed.Control.Status

/-!
# Reconciling configurations

Each time a configuration has changed, the manager is brought in line with it. A finalizer on the
configuration keeps the cluster from removing it before its feed has been stopped: it is added
before the feed is first started, and taken away after the feed has been stopped.

What came of it is written to the status of the configuration.

`reconcile` hands a configuration to `apply`, here `takeUp`, or to `cleanup`, here `giveUp`;
`patch_status` writes its status, and `error_policy` says when to try again.
-/

namespace ClusterFeed.Control

open Cluster (Failure Patch)

/-- What is to be done after a configuration has been reconciled. -/
inductive NextStep where
  /-- Nothing, until it changes. -/
  | awaitChange
  /-- It is to be looked at again after a while. -/
  | lookAgain
  /-- It is to be looked at again soon, because something went wrong. -/
  | tryAgain
  deriving DecidableEq, Repr, Inhabited

/-- What is to be done after a configuration could not be reconciled. -/
def NextStep.afterError : NextStep := tryAgain

namespace SyncConfig

/-- Writes the status of a configuration. -/
def writeStatus {σ : Type} (o : Outside σ) (scope : String) (c : SyncConfig) (status : SyncStatus)
    (s : σ) : Except Failure SyncConfig × σ :=
  let p : Patch := ⟨path scope c.metadata.nameOrStem ++ "/status", "application/merge-patch+json",
    .obj [("status", status.toJson)]⟩
  o.cluster.apply p decode s

/-- The status of a configuration, from what the registry says. -/
def statusNow (c : SyncConfig) (active : Option ActiveEntry) (reason : ReadyReason)
    (message : String) (now : Time.Instant) : SyncStatus :=
  .build c.metadata.generation c.status active reason message now

end SyncConfig

namespace Manager

/-- The text of the status of a feed that watches the cluster. -/
def watchingMessage (m : Manager) (key : String) : String :=
  let n := ((m.feeds[key]?).map fun f => f.watched.length).getD 0
  "watching " ++ toString n ++ " resource types"

/-- Writes the status of a configuration from what the registry says now. -/
def report {σ : Type} (o : Outside σ) (m : Manager) (scope : String) (c : SyncConfig)
    (reason : ReadyReason) (message : String) (s : σ) : Except ControlError Unit × σ :=
  let status := c.statusNow m.registry[c.key]? reason message (o.now s)
  let (written, s) := c.writeStatus o scope status s
  ((written.mapError .kube).map fun _ => (), s)

/-- Has the feed of a configuration run, and writes how it is doing. -/
def takeUp {σ : Type} (o : Outside σ) (m : Manager) (scope : String) (c : SyncConfig) (s : σ) :
    (Except ControlError NextStep × Manager) × σ :=
  let settings := Settings.ofSpec c.spec
  match m.ensure o c.key scope settings s with
  | ((.ok _, m), s) =>
    let (token, s) := probe o scope settings s
    let (reason, message) := match token with
      | Except.ok _ => (ReadyReason.watching, m.watchingMessage c.key)
      | .error e => (ReadyReason.credentialUnavailable, e.message)
    let (written, s) := m.report o scope c reason message s
    ((written.map fun _ => .lookAgain, m), s)
  | ((.error (.discovery cause), m), s) =>
    let e := ControlError.discovery cause
    let (written, s) := m.report o scope c .discoveryFailed e.message s
    match written with
    | .ok _ => ((.error e, m), s)
    | .error e => ((.error e, m), s)
  | ((.error e, m), s) => ((.error e, m), s)

/-- Stops the feed of a configuration, and writes that it has been stopped. The configuration is
about to go, so it does not matter when that cannot be written. -/
def giveUp {σ : Type} (o : Outside σ) (m : Manager) (scope : String) (c : SyncConfig) (s : σ) :
    Manager × σ :=
  let m := (m.stop c.key).2
  let status := c.statusNow none .stopped "configuration deleted" (o.now s)
  (m, (c.writeStatus o scope status s).2)

/-- Adds the finalizer to a configuration. -/
def addFinalizer {σ : Type} (o : Outside σ) (scope : String) (c : SyncConfig) (s : σ) :
    Except ControlError NextStep × σ :=
  match c.metadata.name with
  | none => (.error .unnamedObject, s)
  | some name =>
    let (changed, s) := SyncConfig.change o scope name c.addition s
    ((changed.mapError .addFinalizer).map fun _ => .awaitChange, s)

/-- Gives a configuration up and removes its finalizer, which stands at the given place. -/
def dismiss {σ : Type} (o : Outside σ) (m : Manager) (scope : String) (c : SyncConfig)
    (index : Nat) (s : σ) : (Except ControlError NextStep × Manager) × σ :=
  match c.metadata.name with
  | none => ((.error .unnamedObject, m), s)
  | some name =>
    let (m, s) := m.giveUp o scope c s
    let (changed, s) := SyncConfig.change o scope name (SyncConfig.removal index) s
    (((changed.mapError .removeFinalizer).map fun _ => .awaitChange, m), s)

/-- Brings the manager in line with a configuration. -/
def reconcile {σ : Type} (o : Outside σ) (m : Manager) (c : SyncConfig) (s : σ) :
    (Except ControlError NextStep × Manager) × σ :=
  match c.metadata.scope with
  | none => ((.error (.missingNamespace c.metadata.nameOrStem), m), s)
  | some scope =>
    match c.finalizerIndex?, c.metadata.isDeleting with
    | some _, false =>
      let ((done, m), s) := m.takeUp o scope c s
      ((done.mapError .applyFailed, m), s)
    | some index, true => m.dismiss o scope c index s
    | none, false =>
      let (done, s) := addFinalizer o scope c s
      ((done, m), s)
    | none, true => ((.ok .awaitChange, m), s)

end Manager

end ClusterFeed.Control
