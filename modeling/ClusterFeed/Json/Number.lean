import ClusterFeed.Double.Shortest
import ClusterFeed.Json.Token

/-!
# Numbers that are kept

A number that is kept as part of a value loses the form in which it was written. Integers of 64 bits
stay as they are; every other number becomes one in double precision.

The conversion is a rough one. It takes as many digits as fit into 64 bits, counts the places of the
others, and then multiplies or divides by a power of ten, so that the result may be a little off the
number that is nearest. Numbers that are too great for double precision cannot be kept.
-/

namespace ClusterFeed

namespace Double

/-- The greatest power of ten in double precision. -/
def maxTens : Nat := 308

/-- The number times a power of ten; none when it is too great. -/
def timesTens? (x : Double) (n : Nat) : Option Double :=
  if x.isZero then some x
  else if maxTens < n then none
  else
    let y := x.mul (powerOfTen n)
    if y.isFinite then some y else none

/-- The number by a power of ten, divided step by step as long as something is left. -/
def overTens (x : Double) (n : Nat) : Double :=
  if n ≤ maxTens then x.div (powerOfTen n)
  else if x.isZero then x
  else overTens (x.div (powerOfTen maxTens)) (n - maxTens)
termination_by n
decreasing_by simp only [maxTens] at *; omega

end Double

namespace Json

/-- The greatest natural number of 64 bits. -/
def maxNat64 : Nat := 18446744073709551615

/-- Takes digits behind a number as long as the result fits into 64 bits; how many were taken comes
second. -/
def absorb (n : Nat) : List Char → Nat × Nat
  | [] => (n, 0)
  | d :: ds =>
    let next := n * 10 + (d.toNat - 48)
    if maxNat64 < next then (n, 0)
    else
      let (m, taken) := absorb next ds
      (m, taken + 1)

namespace Number

/-- The digits of the fraction. -/
def fraction (n : Number) : List Char :=
  match n.tail.toList with
  | '.' :: cs => cs.takeWhile Char.isDigit
  | _ => []

/-- The exponent. -/
def exponent (n : Number) : Int :=
  match (n.tail.toList.dropWhile fun c => c != 'e' && c != 'E').drop 1 with
  | '-' :: ds => -(natOfDigits ds : Int)
  | '+' :: ds => natOfDigits ds
  | ds => natOfDigits ds

/-- The digits of a number that fit into 64 bits, and the power of ten that belongs to them. -/
def scientific (n : Number) : Nat × Int :=
  let whole := Nat.toDigits 10 n.whole
  let (first, taken) := absorb 0 whole
  let (both, behind) := absorb first n.fraction
  (both, n.exponent + (whole.length - taken : Nat) - behind)

/-- The number in double precision, without its sign; none when it is too great. -/
def toDouble? (n : Number) : Option Double :=
  let (digits, exponent) := n.scientific
  if exponent < 0 then some ((Double.ofNat digits).overTens (-exponent).toNat)
  else (Double.ofNat digits).timesTens? exponent.toNat

/-- Whether the number is written as an integer of 64 bits, with or without a sign. -/
def isInt64 (n : Number) : Bool :=
  match n.toInt? with
  | some i => -9223372036854775808 ≤ i && i ≤ 18446744073709551615
  | none => false

/-- The number as it is kept, if it can be. -/
def kept? (n : Number) : Option Number :=
  if n.isInt64 then some n
  else n.toDouble?.map fun x => ⟨n.negative, x.render.1, x.render.2⟩

end Number

end Json

end ClusterFeed
