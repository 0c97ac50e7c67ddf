/-!
# Durations

Lengths of time in whole nanoseconds, up to the greatest number of seconds in 64 bits.
-/

namespace ClusterFeed.Time

/-- A length of time. -/
structure Duration where
  /-- The nanoseconds. -/
  nanos : Nat
  deriving DecidableEq, Repr, Inhabited

namespace Duration

/-- The nanoseconds of a second. -/
def perSecond : Nat := 1000000000

/-- The greatest number of nanoseconds. -/
def maxNanos : Nat := Nat.pow 2 64 * perSecond - 1

/-- The longest duration. -/
def longest : Duration := ⟨maxNanos⟩

/-- A number of seconds. -/
def ofSeconds (n : Nat) : Duration := ⟨n * perSecond⟩

/-- A number of milliseconds. -/
def ofMillis (n : Nat) : Duration := ⟨n * 1000000⟩

/-- The whole milliseconds. -/
def millis (d : Duration) : Nat := d.nanos / 1000000

/-- The whole seconds. -/
def seconds (d : Duration) : Nat := d.nanos / perSecond

/-- The nanoseconds after the whole seconds. -/
def subNanos (d : Duration) : Nat := d.nanos % perSecond

/-- The shorter of two durations. -/
def min (a b : Duration) : Duration := ⟨Nat.min a.nanos b.nanos⟩

/-- A multiple, the longest duration when it does not fit. -/
def times (d : Duration) (n : Nat) : Duration := ⟨Nat.min (d.nanos * n) maxNanos⟩

end Duration

end ClusterFeed.Time
