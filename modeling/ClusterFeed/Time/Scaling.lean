import ClusterFeed.Double.Basic
import ClusterFeed.Time.Duration

/-!
# Scaling a duration

A duration times a factor in double precision. The duration is first told in seconds as a double,
then multiplied, and the product is told in nanoseconds again; each of these steps rounds to the
nearest value, and to the even one of two that are equally near.
-/

namespace ClusterFeed.Time

/-- The seconds of a duration in double precision. -/
def Duration.inSeconds (d : Duration) : Double :=
  (Double.ofNat d.seconds).add (Double.ofQuotient d.subNanos Duration.perSecond)

/-- The duration of a number of seconds, to the nearest nanosecond; none from `2 ^ 64` seconds
on. -/
def Duration.ofDouble? (b : Double) : Option Duration :=
  if b.num < Nat.pow 2 64 * b.den then some ⟨Double.roundDiv (b.num * perSecond) b.den⟩ else none

/-- A duration times a factor; none when the product does not fit. -/
def Duration.scale? (d : Duration) (factor : Double) : Option Duration :=
  Duration.ofDouble? (factor.mul d.inSeconds)

end ClusterFeed.Time
