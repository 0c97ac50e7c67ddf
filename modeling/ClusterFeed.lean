import ClusterFeed.Buffer.Basic
import ClusterFeed.Buffer.Intake
import ClusterFeed.Buffer.Loop
import ClusterFeed.Cluster.Definition
import ClusterFeed.Cluster.Discovery
import ClusterFeed.Cluster.Listing
import ClusterFeed.Cluster.Manifest
import ClusterFeed.Cluster.Metadata
import ClusterFeed.Cluster.Reply
import ClusterFeed.Cluster.Schema
import ClusterFeed.Cluster.Secret
import ClusterFeed.Cluster.Target
import ClusterFeed.Cluster.Version
import ClusterFeed.CommandLine.Flag
import ClusterFeed.CommandLine.Invocation
import ClusterFeed.CommandLine.Program
import ClusterFeed.CommandLine.Reading
import ClusterFeed.Control.Config
import ClusterFeed.Control.ConfigManifest
import ClusterFeed.Control.Feed
import ClusterFeed.Control.Finalizer
import ClusterFeed.Control.Manager
import ClusterFeed.Control.Outside
import ClusterFeed.Control.Reconcile
import ClusterFeed.Control.Registry
import ClusterFeed.Control.Resync
import ClusterFeed.Control.Settings
import ClusterFeed.Control.Status
import ClusterFeed.Double.Basic
import ClusterFeed.Double.Shortest
import ClusterFeed.Json.Basic
import ClusterFeed.Json.Decode
import ClusterFeed.Json.Members
import ClusterFeed.Json.Number
import ClusterFeed.Json.Printer
import ClusterFeed.Json.Shape
import ClusterFeed.Json.Token
import ClusterFeed.Json.Tree
import ClusterFeed.Main
import ClusterFeed.Proofs.Buffer.Conservation
import ClusterFeed.Proofs.Buffer.Counts
import ClusterFeed.Proofs.Buffer.Duty
import ClusterFeed.Proofs.Buffer.Effect
import ClusterFeed.Proofs.Buffer.Freshness
import ClusterFeed.Proofs.Buffer.Ledger
import ClusterFeed.Proofs.Buffer.Numbers
import ClusterFeed.Proofs.Buffer.Outflow
import ClusterFeed.Proofs.Buffer.Overlap
import ClusterFeed.Proofs.Buffer.Punctuality
import ClusterFeed.Proofs.Buffer.Reading
import ClusterFeed.Proofs.Buffer.Requests
import ClusterFeed.Proofs.Buffer.Takeover
import ClusterFeed.Proofs.Buffer.Turns
import ClusterFeed.Proofs.Buffer.Waiting
import ClusterFeed.Proofs.Cluster.Filled
import ClusterFeed.Proofs.Cluster.Isolation
import ClusterFeed.Proofs.Cluster.MergedList
import ClusterFeed.Proofs.Cluster.Merging
import ClusterFeed.Proofs.Cluster.Portrait
import ClusterFeed.Proofs.Cluster.ServedVersion
import ClusterFeed.Proofs.CommandLine.Numbers
import ClusterFeed.Proofs.Control.Agreement
import ClusterFeed.Proofs.Control.Authorisation
import ClusterFeed.Proofs.Control.Chronicle
import ClusterFeed.Proofs.Control.Closing
import ClusterFeed.Proofs.Control.Coverage
import ClusterFeed.Proofs.Control.Desk
import ClusterFeed.Proofs.Control.Ending
import ClusterFeed.Proofs.Control.Ensuring
import ClusterFeed.Proofs.Control.Errand
import ClusterFeed.Proofs.Control.Finalizing
import ClusterFeed.Proofs.Control.LastFlush
import ClusterFeed.Proofs.Control.Office
import ClusterFeed.Proofs.Control.OneId
import ClusterFeed.Proofs.Control.Renewal
import ClusterFeed.Proofs.Control.Secrecy
import ClusterFeed.Proofs.Control.Serving
import ClusterFeed.Proofs.Control.Standing
import ClusterFeed.Proofs.Control.Strays
import ClusterFeed.Proofs.Control.Timers
import ClusterFeed.Proofs.Control.Traffic
import ClusterFeed.Proofs.Control.Undisturbed
import ClusterFeed.Proofs.Digits
import ClusterFeed.Proofs.Double.Rounding
import ClusterFeed.Proofs.Feeding.Coalescing
import ClusterFeed.Proofs.Feeding.Pipeline
import ClusterFeed.Proofs.Feeding.Receiver
import ClusterFeed.Proofs.Feeding.Replication
import ClusterFeed.Proofs.Json.Carrying
import ClusterFeed.Proofs.Json.Fields
import ClusterFeed.Proofs.Json.Phrases
import ClusterFeed.Proofs.Json.Printing
import ClusterFeed.Proofs.Json.Spelling
import ClusterFeed.Proofs.Json.Variation
import ClusterFeed.Proofs.KeyedMap
import ClusterFeed.Proofs.Rehearsal.Stage
import ClusterFeed.Proofs.Rehearsal.World
import ClusterFeed.Proofs.Resource.Identity
import ClusterFeed.Proofs.Resource.Wire
import ClusterFeed.Proofs.Sync.Addresses
import ClusterFeed.Proofs.Sync.Classification
import ClusterFeed.Proofs.Sync.Delays
import ClusterFeed.Proofs.Sync.Retries
import ClusterFeed.Proofs.Sync.Stopping
import ClusterFeed.Proofs.Sync.Wire
import ClusterFeed.Proofs.Text.Cutting
import ClusterFeed.Proofs.Text.Trimming
import ClusterFeed.Proofs.Time.Calendar
import ClusterFeed.Proofs.Time.Instants
import ClusterFeed.Proofs.Watch.Accounts
import ClusterFeed.Proofs.Watch.Atomicity
import ClusterFeed.Proofs.Watch.Following
import ClusterFeed.Proofs.Watch.Inflow
import ClusterFeed.Proofs.Watch.Objects
import ClusterFeed.Proofs.Watch.Reports
import ClusterFeed.Proofs.Watch.Story
import ClusterFeed.Proofs.Watch.Twins
import ClusterFeed.Proofs.Wire
import ClusterFeed.Rehearsal.Pursuit
import ClusterFeed.Rehearsal.Recorder
import ClusterFeed.Rehearsal.Routes
import ClusterFeed.Rehearsal.Stage
import ClusterFeed.Rehearsal.World
import ClusterFeed.Resource.Change
import ClusterFeed.Resource.Gvr
import ClusterFeed.Resource.Identifier
import ClusterFeed.Resource.Object
import ClusterFeed.Resource.Selection
import ClusterFeed.Resource.Snapshot
import ClusterFeed.Sync.Backoff
import ClusterFeed.Sync.Client
import ClusterFeed.Sync.Endpoint
import ClusterFeed.Sync.Error
import ClusterFeed.Sync.Message
import ClusterFeed.Text.Base64
import ClusterFeed.Text.Blank
import ClusterFeed.Text.Hex
import ClusterFeed.Text.Hidden
import ClusterFeed.Text.Quoted
import ClusterFeed.Text.Utf8
import ClusterFeed.Time.Calendar
import ClusterFeed.Time.Duration
import ClusterFeed.Time.Instant
import ClusterFeed.Time.Scaling
import ClusterFeed.Watch.Cache
import ClusterFeed.Watch.Informer
import ClusterFeed.Watch.Inlet
import ClusterFeed.Watch.Relay
