import ClusterFeed.Control.Config
import ClusterFeed.Control.Registry

/-!
# The status of a configuration

A status is made from the one before and from what the registry says now. It carries one condition
that tells whether the feed is ready; all other conditions are left as they are. The time of that
condition moves only when it turns from one to the other.

`build` is `build_status`, and `setReady` is `set_ready`.
-/

namespace ClusterFeed.Control

open Time (Instant)

/-- Why a feed is ready or not. -/
inductive ReadyReason where
  /-- It watches the cluster. -/
  | watching
  /-- The types to watch could not be found out. -/
  | discoveryFailed
  /-- The token could not be had. -/
  | credentialUnavailable
  /-- It has been stopped. -/
  | stopped
  deriving DecidableEq, Repr, Inhabited

namespace ReadyReason

/-- The name of a reason. -/
def name : ReadyReason → String
  | watching => "Watching"
  | discoveryFailed => "DiscoveryFailed"
  | credentialUnavailable => "CredentialUnavailable"
  | stopped => "Stopped"

/-- The reason of the given name. -/
def ofName? (s : String) : Option ReadyReason :=
  [watching, discoveryFailed, credentialUnavailable, stopped].find? (·.name == s)

/-- Whether a feed is ready for this reason. -/
def isReady (r : ReadyReason) : Bool := r == watching

/-- Whether a feed is ready for this reason, in a word. -/
def statusWord (r : ReadyReason) : String := if r.isReady then "True" else "False"

end ReadyReason

namespace SyncStatus

/-- The name of the condition that tells whether a feed is ready. -/
def readyName : String := "Ready"

/-- The condition that tells whether the feed is ready. -/
def ready? (s : SyncStatus) : Option Condition :=
  s.conditions.find? (·.about == readyName)

/-- Since when the feed is ready or not: as before if the condition has not turned. -/
def readySince (prev : Option SyncStatus) (reason : ReadyReason) (now : Instant) : String :=
  match (prev.bind ready?).filter (·.status == reason.statusWord) with
  | some c => c.since
  | none => now.renderSeconds

/-- Sets the condition that tells whether the feed is ready, as the last one. -/
def setReady (s : SyncStatus) (prev : Option SyncStatus) (reason : ReadyReason)
    (message : String) (now : Instant) : SyncStatus :=
  { s with conditions := s.conditions.filter (·.about != readyName) ++
      [⟨readyName, reason.statusWord, reason.name, message, readySince prev reason now⟩] }

/-- A count as a number of 64 bits with a sign. -/
def signed (n : Nat) : Int := Int.bmod n 18446744073709551616

/-- The status of a feed. -/
def build (generation : Option Int) (prev : Option SyncStatus) (active : Option ActiveEntry)
    (reason : ReadyReason) (message : String) (now : Instant) : SyncStatus :=
  let resync := active.bind (·.lastResync)
  let status : SyncStatus := {
    active := match active with
      | some a => a.active
      | none => false
    watched := match active with
      | some a => signed a.watched
      | none => 0
    lastResyncTime := match resync with
      | some r => some r.instant.renderSeconds
      | none => prev.bind (·.lastResyncTime)
    lastResyncCount := match resync with
      | some r => some (signed r.count)
      | none => prev.bind (·.lastResyncCount)
    observedGeneration := generation
    conditions := match prev with
      | some p => p.conditions
      | none => [] }
  status.setReady prev reason message now

end SyncStatus

end ClusterFeed.Control
