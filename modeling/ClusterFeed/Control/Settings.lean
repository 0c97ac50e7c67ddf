import ClusterFeed.Buffer.Basic
import ClusterFeed.Control.Config
import ClusterFeed.Text.Blank

/-!
# Settings

What a configuration asks for, brought into one form: the address without blanks around it, and
lengths of time that are neither zero nor too long. Configurations with equal settings need no new
feed.

`ofSpec` is `from_spec`, with `positive` for the numbers in it.
-/

namespace ClusterFeed.Control

open Cluster (SecretKey)
open Time (Duration)

/-- The settings of a feed. -/
structure Settings where
  /-- The address of the index; empty for none. -/
  endpoint : String
  /-- The time between two sendings. -/
  debounce : Duration
  /-- The time between two resyncs. -/
  resync : Duration
  /-- Where the token stands. -/
  auth : Option SecretKey
  deriving DecidableEq, Repr, Inhabited

namespace Settings

/-- The time between two resyncs when none is asked for. -/
def defaultResync : Duration := .ofSeconds (60 * 60)

/-- The longest time between two sendings. -/
def maxDebounce : Duration := .ofSeconds (60 * 60)

/-- The longest time between two resyncs. -/
def maxResync : Duration := .ofSeconds (7 * 24 * 60 * 60)

/-- The greatest number of 64 bits, at which a number of seconds stops growing. -/
def maxSeconds : Nat := 18446744073709551615

/-- A number if it is positive. -/
def positive? (n : Option Int) : Option Nat :=
  (n.filter fun i => decide (0 < i)).map Int.toNat

/-- The settings for what a configuration asks for. -/
def ofSpec (s : SyncSpec) : Settings where
  endpoint := Text.trim s.endpoint
  debounce := match positive? s.debounceSeconds with
    | some n => (Duration.ofSeconds n).min maxDebounce
    | none => Buffer.defaultWindow
  resync := match positive? s.resyncMinutes with
    | some n => (Duration.ofSeconds (Nat.min (n * 60) maxSeconds)).min maxResync
    | none => defaultResync
  auth := s.auth

/-- Whether there is an index to send to. -/
def hasTarget (s : Settings) : Bool := s.endpoint != ""

end Settings

end ClusterFeed.Control
