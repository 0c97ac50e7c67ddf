import ClusterFeed.Double.Basic

/-!
# The fewest digits

A number in double precision is told by the fewest decimal digits that are nearer to it than to any
other number in double precision. Of several decimals with that few digits it is the nearest, and of
two that are equally near the even one.
-/

namespace ClusterFeed

/-- A decimal number, `digits * 10 ^ exponent`. -/
structure Decimal where
  /-- The digits. -/
  digits : Nat
  /-- The exponent. -/
  exponent : Int
  deriving DecidableEq, Repr, Inhabited

namespace Decimal

/-- The digits without the zeros at their end, as many as `fuel` at most. -/
def strip : Nat → Decimal → Decimal
  | 0, d => d
  | fuel + 1, d =>
    if d.digits != 0 && d.digits % 10 == 0 then strip fuel ⟨d.digits / 10, d.exponent + 1⟩ else d

end Decimal

namespace Double

/-- How many digits a number above zero has before the point; of a number below one, how many zeros
follow the point, as a negative number. -/
def magnitude (x : Double) : Int :=
  ((Nat.toDigits 10 (x.num * Nat.pow 10 400 / x.den)).length : Int) - 400

/-- Four times the significand, and what can be taken from it and added to it until the next number
is as near. The next smaller number is nearer where the exponent changes. -/
def reach (x : Double) : Nat × Nat × Nat :=
  (4 * x.significand,
    if x.significand = leastFull && leastExponent < x.exponent then 1 else 2, 2)

/-- The decimal with so many digits that is nearest to a number above zero, if it is nearer to it
than to any other number. -/
def withDigits? (x : Double) (count : Nat) : Option Decimal :=
  let place : Int := x.magnitude - count
  let unit : Int := x.exponent - 2
  -- `value * up` in quarters of the significand is `c * down` for a decimal with the digits `c`
  let up := Nat.pow 2 unit.toNat * Nat.pow 10 (-place).toNat
  let down := Nat.pow 10 place.toNat * Nat.pow 2 (-unit).toNat
  let (value, below, above) := x.reach
  let reads (c : Nat) : Bool :=
    let low := (value - below) * up
    let high := (value + above) * up
    let c := c * down
    if x.significand % 2 = 0 then low ≤ c && c ≤ high else low < c && c < high
  let floor := value * up / down
  let nearest := roundDiv (value * up) down
  let other := if nearest = floor then floor + 1 else floor
  if reads nearest then some ⟨nearest, place⟩
  else if reads other then some ⟨other, place⟩
  else none

/-- The decimal with the fewest digits for a number above zero. Seventeen are always enough. -/
def shortest (x : Double) : Decimal :=
  (((List.range 17).findSome? fun n => x.withDigits? (n + 1)).getD ⟨0, 0⟩).strip 17

/-- A number as text, in two parts: the integer before the point, and all that follows. Numbers with
up to sixteen digits before the point, or up to four zeros behind it, are written out; all others
have one digit before the point and an exponent. There is a point or an exponent in any case. -/
def render (x : Double) : Nat × String :=
  if x.isZero then (0, ".0")
  else
    let d := x.shortest
    let ds := Nat.toDigits 10 d.digits
    let before : Int := ds.length + d.exponent
    if 0 ≤ d.exponent && before ≤ 16 then (d.digits * Nat.pow 10 d.exponent.toNat, ".0")
    else if 0 < before && before ≤ 16 then
      let unit := Nat.pow 10 (-d.exponent).toNat
      (d.digits / unit, "." ++ String.ofList (ds.drop before.toNat))
    else if -5 < before && before ≤ 0 then
      (0, "." ++ String.ofList (List.replicate (-before).toNat '0' ++ ds))
    else
      let exponent := "e" ++ toString (before - 1)
      let unit := Nat.pow 10 (ds.length - 1)
      if ds.length = 1 then (d.digits, exponent)
      else (d.digits / unit, "." ++ String.ofList (ds.drop 1) ++ exponent)

end Double

end ClusterFeed
