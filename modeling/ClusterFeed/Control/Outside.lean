import ClusterFeed.Cluster.Discovery
import ClusterFeed.Cluster.Secret
import ClusterFeed.Control.Settings
import ClusterFeed.Sync.Client

/-!
# What surrounds the controller

The cluster, the index and the time, on some state of their own. Nothing else is known about them,
so whatever holds of the controller holds in every cluster and with every index.

`ensure_clients` asks for `connect`, and `start_runtime` for `makeClient` when there is an index to
send to.
-/

namespace ClusterFeed.Control

open Cluster (Access Failure)
open Sync (SyncError CredentialError)
open Time (Instant Duration)

/-- What surrounds the controller. -/
structure Outside (σ : Type) where
  /-- The cluster. -/
  cluster : Access σ
  /-- The index. -/
  index : Sync.IndexAccess σ
  /-- Finds out how the cluster is reached, when it is first needed. -/
  connect : σ → Except Failure Unit × σ
  /-- Builds a client of the index. -/
  prepare : Settings → σ → Except SyncError Unit × σ
  /-- The time. -/
  now : σ → Instant

/-- What is set for all feeds together. -/
structure Options where
  /-- How many changes wait in the intake queue of a feed. -/
  queueCapacity : Nat
  /-- How often a request to the index is sent again. -/
  maxRetries : Nat
  /-- The wait before the first retry. -/
  initialBackoff : Duration
  /-- The longest wait before a retry. -/
  maxBackoff : Duration
  /-- How long an answer of the index may take. -/
  requestTimeout : Duration
  deriving DecidableEq, Repr, Inhabited

namespace Options

/-- The usual options. -/
def usual : Options := ⟨4096, 3, .ofSeconds 1, .ofSeconds 30, .ofSeconds 30⟩

/-- How a client of the index is set up. -/
def clientConfig (o : Options) (endpoint : String) : Sync.ClientConfig :=
  ⟨endpoint, o.maxRetries, ⟨o.initialBackoff, o.maxBackoff⟩, o.requestTimeout⟩

end Options

/-- The client of the index for the settings of a feed, whose token stands in the namespace. -/
def clientFor {σ : Type} (o : Outside σ) (opts : Options) (scope : String) (settings : Settings) :
    Sync.Client σ where
  config := opts.clientConfig settings.endpoint
  tokens := settings.auth.map fun place => Cluster.readToken o.cluster scope place

/-- Builds a client of the index. Where there is no index to send to none is needed. -/
def Outside.makeClient {σ : Type} (o : Outside σ) (settings : Settings) (s : σ) :
    Except SyncError Unit × σ :=
  if settings.hasTarget then o.prepare settings s else (.ok (), s)

/-- How a feed sends requests; none when there is no index to send to. -/
def transport {σ : Type} (o : Outside σ) (opts : Options) (scope : String) (settings : Settings) :
    Option (Sync.Request → σ → Except SyncError Sync.Response × σ) :=
  if settings.hasTarget then some ((clientFor o opts scope settings).send o.index) else none

end ClusterFeed.Control
