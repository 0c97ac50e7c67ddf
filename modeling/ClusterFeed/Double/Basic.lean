/-!
# Numbers in double precision

Finite numbers in double precision that are not negative. Such a number is an integer of at most 53
bits times a power of two, and so every operation on them is exact arithmetic of natural numbers
followed by one rounding: to the nearest number, and to the even one of two that are equally near.
-/

namespace ClusterFeed

/-- A number in double precision, `significand * 2 ^ exponent`. -/
structure Double where
  /-- The significand, below `2 ^ 53`. -/
  significand : Nat
  /-- The exponent. -/
  exponent : Int
  deriving DecidableEq, Repr, Inhabited

namespace Double

/-- The integer nearest to a quotient, the even one of two. -/
def roundDiv (n d : Nat) : Nat :=
  let q := n / d
  let twice := 2 * (n % d)
  if twice < d then q
  else if twice > d then q + 1
  else if q % 2 = 0 then q else q + 1

/-- The least significand of a number that has all its bits. -/
def leastFull : Nat := Nat.pow 2 52

/-- The least exponent. -/
def leastExponent : Int := -1074

/-- The number zero. -/
def zero : Double := ⟨0, 0⟩

/-- Whether the number is zero. -/
def isZero (x : Double) : Bool := x.significand == 0

/-- The numerator of the number as a fraction. -/
def num (x : Double) : Nat := x.significand * Nat.pow 2 x.exponent.toNat

/-- The denominator of the number as a fraction. -/
def den (x : Double) : Nat := Nat.pow 2 (-x.exponent).toNat

/-- Whether the number is one of double precision. The greatest exponents are not. -/
def isFinite (x : Double) : Bool := x.num < Nat.pow 2 1024 * x.den

/-- The number nearest to a quotient; too great a quotient gives a number that is not finite. -/
def ofQuotient (n d : Nat) : Double :=
  if n = 0 then zero
  else
    -- the quotient times `2 ^ shift` lies between `2 ^ 52` and `2 ^ 54`
    let shift : Int := 53 + (d.log2 : Int) - (n.log2 : Int)
    let scaled (s : Int) : Nat × Nat := (n * Nat.pow 2 s.toNat, d * Nat.pow 2 (-s).toNat)
    let atShift := scaled shift
    let full := if atShift.1 < 2 * leastFull * atShift.2 then shift else shift - 1
    let s := min full (-leastExponent)
    let q := scaled s
    let rounded := roundDiv q.1 q.2
    if rounded = 2 * leastFull then ⟨leastFull, 1 - s⟩ else ⟨rounded, -s⟩

/-- The number nearest to a natural number. -/
def ofNat (n : Nat) : Double := ofQuotient n 1

/-- The number nearest to a sum. -/
def add (x y : Double) : Double :=
  ofQuotient (x.num * y.den + y.num * x.den) (x.den * y.den)

/-- The number nearest to a product. -/
def mul (x y : Double) : Double :=
  ofQuotient (x.num * y.num) (x.den * y.den)

/-- The number nearest to a quotient of numbers; zero when there is none. -/
def div (x y : Double) : Double :=
  ofQuotient (x.num * y.den) (x.den * y.num)

/-- The number nearest to a power of ten. -/
def powerOfTen (n : Nat) : Double := ofNat (Nat.pow 10 n)

/-- The number nearest to a decimal fraction, written with a point at most. -/
def ofDecimal? (s : String) : Option Double :=
  let cs := s.toList
  let whole := cs.takeWhile Char.isDigit
  let rest := cs.dropWhile Char.isDigit
  let value (ds : List Char) : Nat := ds.foldl (fun n d => n * 10 + (d.toNat - 48)) 0
  match rest with
  | [] => if whole.isEmpty then none else some (ofNat (value whole))
  | '.' :: ds =>
    if ds.all Char.isDigit && !ds.isEmpty then
      some (ofQuotient (value (whole ++ ds)) (Nat.pow 10 ds.length))
    else none
  | _ => none

end Double

end ClusterFeed
