import ClusterFeed.Time.Scaling

/-!
# Waiting before a retry

The wait doubles with each retry up to a longest one, and is stretched or shortened by a random
factor, so that feeds that failed together do not come back together. The longest wait holds before
and after the factor.

This is `delay`, with the random factor given.
-/

namespace ClusterFeed.Sync

open Time (Duration)

/-- The schedule of waits. -/
structure Backoff where
  /-- The wait before the first retry. -/
  initial : Duration
  /-- The longest wait. -/
  longest : Duration
  deriving DecidableEq, Repr, Inhabited

namespace Backoff

/-- How often the first wait is doubled before a retry, counted from one. -/
def doublings (retry : Nat) : Nat := Nat.min (retry - 1) 31

/-- The wait before a retry without the random factor. -/
def base (b : Backoff) (retry : Nat) : Duration :=
  (b.initial.times (Nat.pow 2 (doublings retry))).min b.longest

/-- The wait before a retry, for a random factor; none when the product does not fit a
duration. -/
def delay? (b : Backoff) (retry : Nat) (factor : Double) : Option Duration :=
  ((b.base retry).scale? factor).map (·.min b.longest)

end Backoff

end ClusterFeed.Sync
