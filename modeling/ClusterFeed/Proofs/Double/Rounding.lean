import ClusterFeed.Double.Basic
import Mathlib.Algebra.Order.Field.Power
import Mathlib.Data.Nat.Log
import Mathlib.Tactic.FieldSimp
import Mathlib.Tactic.GCongr
import Mathlib.Tactic.Linarith
import Mathlib.Tactic.Positivity
import Mathlib.Tactic.Ring

/-!
# How far rounding goes

The integer next to a quotient is no more than a half away from it, and grows with it. The number in
double precision next to a quotient is away from it by no more than one part in `2 ^ 53`, unless the
quotient is so small that not all bits of a significand are left for it.
-/

namespace ClusterFeed.Double

variable {n n' d d' : Nat}

/-! ## The nearest integer -/

theorem roundDiv_le (hd : 0 < d) : 2 * (roundDiv n d * d) ≤ 2 * n + d := by
  have hn : n / d * d + n % d = n := Nat.div_add_mod' n d
  have hmod : n % d < d := Nat.mod_lt n hd
  unfold roundDiv
  dsimp only
  split
  · omega
  · split
    · rw [Nat.add_mul]
      omega
    · split
      · omega
      · rw [Nat.add_mul]
        omega

theorem le_roundDiv (hd : 0 < d) : 2 * n ≤ 2 * (roundDiv n d * d) + d := by
  have hn : n / d * d + n % d = n := Nat.div_add_mod' n d
  have hmod : n % d < d := Nat.mod_lt n hd
  unfold roundDiv
  dsimp only
  split
  · omega
  · split
    · rw [Nat.add_mul]
      omega
    · split
      · omega
      · rw [Nat.add_mul]
        omega

theorem roundDiv_mul_right {c : Nat} (hc : 0 < c) : roundDiv (n * c) (d * c) = roundDiv n d := by
  have hq : n * c / (d * c) = n / d := Nat.mul_div_mul_right n d hc
  have hr : n * c % (d * c) = n % d * c := Nat.mul_mod_mul_right c n d
  have hlt : 2 * (n % d * c) < d * c ↔ 2 * (n % d) < d := by
    rw [← Nat.mul_assoc]
    exact Nat.mul_lt_mul_right hc
  have hgt : d * c < 2 * (n % d * c) ↔ d < 2 * (n % d) := by
    rw [← Nat.mul_assoc]
    exact Nat.mul_lt_mul_right hc
  unfold roundDiv
  simp only [hq, hr, hlt, hgt, gt_iff_lt]

/-- Over one denominator the greater numerator gives the greater integer. -/
theorem roundDiv_mono (h : n ≤ n') : roundDiv n d ≤ roundDiv n' d := by
  have hq : n / d ≤ n' / d := Nat.div_le_div_right h
  have hn : d * (n / d) + n % d = n := Nat.div_add_mod n d
  have hn' : d * (n' / d) + n' % d = n' := Nat.div_add_mod n' d
  have hup : ∀ m, m / d ≤ roundDiv m d ∧ roundDiv m d ≤ m / d + 1 := by
    intro m
    unfold roundDiv
    dsimp only
    split
    · omega
    · split
      · omega
      · split <;> omega
  rcases Nat.lt_or_ge (n / d) (n' / d) with hlt | hge
  · have h1 := (hup n).2
    have h2 := (hup n').1
    omega
  · -- with the same whole part the rests decide
    have heq : n / d = n' / d := by omega
    have hmod : n % d ≤ n' % d := by
      rw [heq] at hn
      omega
    unfold roundDiv
    dsimp only
    rw [heq]
    split_ifs <;> omega

/-- The greater quotient gives the greater integer. -/
theorem roundDiv_le_roundDiv (hd : 0 < d) (hd' : 0 < d') (h : n * d' ≤ n' * d) :
    roundDiv n d ≤ roundDiv n' d' := by
  have hleft : roundDiv n d = roundDiv (n * d') (d * d') := (roundDiv_mul_right hd').symm
  have hright : roundDiv n' d' = roundDiv (n' * d) (d * d') := by
    rw [Nat.mul_comm d d']
    exact (roundDiv_mul_right hd).symm
  rw [hleft, hright]
  exact roundDiv_mono h

theorem abs_roundDiv_sub_le (hd : 0 < d) : |(roundDiv n d : ℚ) - n / d| ≤ 1 / 2 := by
  have hpos : (0 : ℚ) < d := by exact_mod_cast hd
  have hle : (2 : ℚ) * (roundDiv n d * d) ≤ 2 * n + d := by exact_mod_cast roundDiv_le hd
  have hge : (2 : ℚ) * n ≤ 2 * (roundDiv n d * d) + d := by exact_mod_cast le_roundDiv hd
  have hn : (n : ℚ) = n / d * d := by field_simp
  rw [abs_le]
  constructor <;> nlinarith

/-! ## The nearest number -/

/-- The number as a fraction. -/
def value (x : Double) : ℚ := x.num / x.den

theorem den_pos (x : Double) : 0 < x.den := Nat.two_pow_pos _

theorem two_pow_toNat (s : Int) : (2 : ℚ) ^ s.toNat / 2 ^ (-s).toNat = 2 ^ s := by
  obtain ⟨k, rfl | rfl⟩ := s.eq_nat_or_neg
  · simp
  · simp

theorem value_eq (x : Double) : x.value = x.significand * 2 ^ x.exponent := by
  have hden : (x.den : ℚ) = 2 ^ (-x.exponent).toNat := by
    unfold den
    norm_cast
  have hnum : (x.num : ℚ) = x.significand * 2 ^ x.exponent.toNat := by
    unfold num
    norm_cast
  rw [value, hden, hnum, mul_div_assoc, two_pow_toNat]

theorem value_nonneg (x : Double) : 0 ≤ x.value := by
  unfold value
  positivity

/-- By how many binary places a quotient is moved so that a significand has all its bits. -/
def fullShift (n d : Nat) : Int :=
  let shift : Int := 53 + (d.log2 : Int) - (n.log2 : Int)
  if n * Nat.pow 2 shift.toNat < 2 * leastFull * (d * Nat.pow 2 (-shift).toNat) then shift
  else shift - 1

theorem ofQuotient_eq (hn : n ≠ 0) : ofQuotient n d =
    let s := min (fullShift n d) 1074
    let r := roundDiv (n * Nat.pow 2 s.toNat) (d * Nat.pow 2 (-s).toNat)
    if r = 2 * leastFull then ⟨leastFull, 1 - s⟩ else ⟨r, -s⟩ := by
  unfold ofQuotient
  rw [if_neg hn]
  rfl

/-- A quotient that is moved by binary places. -/
theorem scaled_eq (n d : Nat) (s : Int) :
    ((n * Nat.pow 2 s.toNat : Nat) : ℚ) / (d * Nat.pow 2 (-s).toNat : Nat) = n / d * 2 ^ s := by
  have hpow : ∀ k, ((Nat.pow 2 k : Nat) : ℚ) = 2 ^ k := fun k => by norm_cast
  rw [Nat.cast_mul, Nat.cast_mul, hpow, hpow, mul_div_mul_comm, two_pow_toNat]

theorem log2_bounds (hn : n ≠ 0) :
    (2 : ℚ) ^ (n.log2 : Int) ≤ n ∧ (n : ℚ) < 2 ^ (n.log2 + 1 : Int) := by
  constructor
  · have h : 2 ^ n.log2 ≤ n := Nat.log2_self_le hn
    rw [zpow_natCast]
    exact_mod_cast h
  · have h : n < 2 ^ (n.log2 + 1) := Nat.lt_log2_self
    have hcast : (2 : ℚ) ^ (n.log2 + 1 : Int) = ((2 ^ (n.log2 + 1) : Nat) : ℚ) := by
      norm_cast
    rw [hcast]
    exact_mod_cast h

/-- The lengths of the numbers in bits tell almost by how many places to move their quotient. -/
theorem log2_shift_bounds (hn : n ≠ 0) (hd : d ≠ 0) :
    (2 : ℚ) ^ 52 ≤ n / d * 2 ^ (53 + (d.log2 : Int) - (n.log2 : Int)) ∧
      n / d * 2 ^ (53 + (d.log2 : Int) - (n.log2 : Int)) < (2 : ℚ) ^ 54 := by
  have hdpos : (0 : ℚ) < d := by exact_mod_cast Nat.pos_of_ne_zero hd
  obtain ⟨hn1, hn2⟩ := log2_bounds hn
  obtain ⟨hd1, hd2⟩ := log2_bounds hd
  generalize hshift : 53 + (d.log2 : Int) - (n.log2 : Int) = shift
  constructor
  · have hpow : (2 : ℚ) ^ (n.log2 : Int) * 2 ^ shift = 2 ^ 52 * 2 ^ (d.log2 + 1 : Int) := by
      rw [← zpow_natCast, ← zpow_add₀ two_ne_zero, ← zpow_add₀ two_ne_zero]
      congr 1
      push_cast
      omega
    rw [div_mul_eq_mul_div, le_div_iff₀ hdpos]
    calc (2 : ℚ) ^ 52 * d ≤ 2 ^ 52 * 2 ^ (d.log2 + 1 : Int) := by gcongr
      _ = 2 ^ (n.log2 : Int) * 2 ^ shift := hpow.symm
      _ ≤ n * 2 ^ shift := by gcongr
  · have hpow : (2 : ℚ) ^ (n.log2 + 1 : Int) * 2 ^ shift = 2 ^ 54 * 2 ^ (d.log2 : Int) := by
      rw [← zpow_natCast, ← zpow_add₀ two_ne_zero, ← zpow_add₀ two_ne_zero]
      congr 1
      push_cast
      omega
    rw [div_mul_eq_mul_div, div_lt_iff₀ hdpos]
    calc (n : ℚ) * 2 ^ shift < 2 ^ (n.log2 + 1 : Int) * 2 ^ shift := by gcongr
      _ = 2 ^ 54 * 2 ^ (d.log2 : Int) := hpow
      _ ≤ 2 ^ 54 * d := by gcongr

/-- What is asked of a quotient that has been moved: whether it has no bit too many. -/
theorem scaled_lt_iff (n : Nat) (hd : d ≠ 0) (s : Int) :
    n * Nat.pow 2 s.toNat < 2 * leastFull * (d * Nat.pow 2 (-s).toNat) ↔
      n / d * 2 ^ s < (2 : ℚ) ^ 53 := by
  have hpos : 0 < d * Nat.pow 2 (-s).toNat :=
    Nat.mul_pos (Nat.pos_of_ne_zero hd) (Nat.two_pow_pos _)
  have hqpos : (0 : ℚ) < (d * Nat.pow 2 (-s).toNat : Nat) := by exact_mod_cast hpos
  have hfull : (2 : ℚ) ^ 53 = ((2 * leastFull : Nat) : ℚ) := by
    unfold leastFull
    norm_num
  rw [← scaled_eq, div_lt_iff₀ hqpos, hfull]
  exact_mod_cast Iff.rfl

/-- Moved so, the quotient has just the bits of a significand before the point. -/
theorem fullShift_bounds (hn : n ≠ 0) (hd : d ≠ 0) :
    (2 : ℚ) ^ 52 ≤ n / d * 2 ^ fullShift n d ∧ n / d * 2 ^ fullShift n d < (2 : ℚ) ^ 53 := by
  obtain ⟨hlow, hhigh⟩ := log2_shift_bounds hn hd
  unfold fullShift
  dsimp only
  generalize 53 + (d.log2 : Int) - (n.log2 : Int) = shift at *
  have hcond := scaled_lt_iff n hd shift
  split
  · rename_i h
    exact ⟨hlow, hcond.mp h⟩
  · rename_i h
    have hge : (2 : ℚ) ^ 53 ≤ n / d * 2 ^ shift := not_lt.mp fun hlt => h (hcond.mpr hlt)
    have hhalf : (n : ℚ) / d * 2 ^ (shift - 1) = n / d * 2 ^ shift / 2 := by
      rw [zpow_sub_one₀ two_ne_zero]
      ring
    rw [hhalf]
    constructor <;> linarith

/-- A quotient that is not too small has all the bits of a significand. -/
theorem fullShift_le {k : Nat} (hk : k ≤ 1022) (hn : n ≠ 0) (hd : d ≠ 0) (hsmall : d ≤ n * 2 ^ k) :
    fullShift n d ≤ 1074 := by
  have hdpos : (0 : ℚ) < d := by exact_mod_cast Nat.pos_of_ne_zero hd
  have hx : 1 ≤ (n : ℚ) / d * 2 ^ k := by
    rw [div_mul_eq_mul_div, le_div_iff₀ hdpos, one_mul]
    exact_mod_cast hsmall
  by_contra hlarge
  have hpow : (2 : ℚ) ^ 53 * 2 ^ k ≤ 2 ^ fullShift n d := by
    rw [← pow_add, ← zpow_natCast]
    exact zpow_le_zpow_right₀ (by norm_num) (by push_cast; omega)
  have hbig : (2 : ℚ) ^ 53 ≤ n / d * 2 ^ fullShift n d :=
    calc (2 : ℚ) ^ 53 ≤ 2 ^ 53 * (n / d * 2 ^ k) := le_mul_of_one_le_right (by norm_num) hx
      _ = n / d * (2 ^ 53 * 2 ^ k) := by ring
      _ ≤ n / d * 2 ^ fullShift n d := by gcongr
  exact absurd (fullShift_bounds hn hd).2 (not_lt.mpr hbig)

/-- A quotient that has all the bits of a significand is rounded to an integer where it has been
moved to. -/
theorem value_ofQuotient (hn : n ≠ 0) (hfull : fullShift n d ≤ 1074) :
    (ofQuotient n d).value = roundDiv (n * Nat.pow 2 (fullShift n d).toNat)
      (d * Nat.pow 2 (-fullShift n d).toNat) * 2 ^ (-fullShift n d) := by
  rw [ofQuotient_eq hn]
  dsimp only
  rw [min_eq_left hfull]
  generalize fullShift n d = s
  split
  · -- a significand that has grown by a bit is moved back by one place
    rename_i h
    rw [value_eq, h]
    dsimp only
    rw [show (1 - s : Int) = -s + 1 by omega, zpow_add_one₀ two_ne_zero]
    push_cast
    ring
  · rw [value_eq]

/-- What rounding a quotient to a number does to it, if the quotient is not too small. -/
theorem abs_value_ofQuotient_sub_le {k : Nat} (hk : k ≤ 1022) (hd : d ≠ 0)
    (hsmall : n ≠ 0 → d ≤ n * 2 ^ k) : |(ofQuotient n d).value - n / d| ≤ n / d / 2 ^ 53 := by
  by_cases hn : n = 0
  · subst hn
    simp [ofQuotient, value, zero, num]
  rw [value_ofQuotient hn (fullShift_le hk hn hd (hsmall hn))]
  have hlow := (fullShift_bounds hn hd).1
  generalize fullShift n d = s at *
  set r := roundDiv (n * Nat.pow 2 s.toNat) (d * Nat.pow 2 (-s).toNat) with hr
  have hround : |(r : ℚ) - n / d * 2 ^ s| ≤ 1 / 2 := by
    rw [← scaled_eq]
    exact abs_roundDiv_sub_le (Nat.mul_pos (Nat.pos_of_ne_zero hd) (Nat.two_pow_pos _))
  have hunit : (2 : ℚ) ^ s * 2 ^ (-s) = 1 := by
    rw [← zpow_add₀ two_ne_zero, add_neg_cancel, zpow_zero]
  have hpos : (0 : ℚ) < 2 ^ (-s) := by positivity
  calc |(r : ℚ) * 2 ^ (-s) - n / d|
      = |((r : ℚ) - n / d * 2 ^ s) * 2 ^ (-s)| := by
        rw [sub_mul, mul_assoc, hunit, mul_one]
    _ = |(r : ℚ) - n / d * 2 ^ s| * 2 ^ (-s) := by rw [abs_mul, abs_of_pos hpos]
    _ ≤ 1 / 2 * 2 ^ (-s) := by gcongr
    _ = 2 ^ 52 * 2 ^ (-s) / 2 ^ 53 := by ring
    _ ≤ n / d * 2 ^ s * 2 ^ (-s) / 2 ^ 53 := by gcongr
    _ = n / d / 2 ^ 53 := by rw [mul_assoc, hunit, mul_one]

/-! ## Several roundings -/

/-- The first value has come of the second one by so many roundings at most, each of which moves a
value by one part in `2 ^ 53`. -/
def Rounds (k : Nat) (x y : ℚ) : Prop := |x - y| ≤ y * ((1 + 1 / 2 ^ 53) ^ k - 1)

variable {k j : Nat} {x x' y y' c : ℚ}

theorem Rounds.refl (x : ℚ) : Rounds 0 x x := by simp [Rounds]

theorem Rounds.add (h : Rounds k x y) (h' : Rounds k x' y') : Rounds k (x + x') (y + y') := by
  unfold Rounds at *
  calc |x + x' - (y + y')| = |(x - y) + (x' - y')| := by ring_nf
    _ ≤ |x - y| + |x' - y'| := abs_add_le _ _
    _ ≤ y * ((1 + 1 / 2 ^ 53) ^ k - 1) + y' * ((1 + 1 / 2 ^ 53) ^ k - 1) := add_le_add h h'
    _ = (y + y') * ((1 + 1 / 2 ^ 53) ^ k - 1) := by ring

theorem Rounds.mul_left (hc : 0 ≤ c) (h : Rounds k x y) : Rounds k (c * x) (c * y) := by
  unfold Rounds at *
  rw [← mul_sub, abs_mul, abs_of_nonneg hc, mul_assoc]
  gcongr

theorem Rounds.le (h : Rounds k x y) : x ≤ y * (1 + 1 / 2 ^ 53) ^ k := by
  have hle := (abs_le.mp h).2
  linarith

/-- One more rounding. -/
theorem Rounds.next (h : Rounds k x y) (h' : |x' - x| ≤ x / 2 ^ 53) : Rounds (k + 1) x' y := by
  have hx := h.le
  unfold Rounds at *
  calc |x' - y| = |(x' - x) + (x - y)| := by ring_nf
    _ ≤ |x' - x| + |x - y| := abs_add_le _ _
    _ ≤ x / 2 ^ 53 + y * ((1 + 1 / 2 ^ 53) ^ k - 1) := add_le_add h' h
    _ ≤ y * (1 + 1 / 2 ^ 53) ^ k / 2 ^ 53 + y * ((1 + 1 / 2 ^ 53) ^ k - 1) := by gcongr
    _ = y * ((1 + 1 / 2 ^ 53) ^ (k + 1) - 1) := by ring

/-- A quotient near a value that is not too small can be rounded to a number. -/
theorem Rounds.ofQuotient (hk : k ≤ 2) (hj : j < 1022) (hd : d ≠ 0)
    (hy : y = 0 ∨ 1 ≤ y * 2 ^ j) (h : Rounds k (n / d) y) :
    Rounds (k + 1) (ofQuotient n d).value y := by
  refine h.next (abs_value_ofQuotient_sub_le (k := j + 1) hj hd fun hn => ?_)
  have hdpos : (0 : ℚ) < d := by exact_mod_cast Nat.pos_of_ne_zero hd
  have hnpos : (0 : ℚ) < n := by exact_mod_cast Nat.pos_of_ne_zero hn
  have hfew : ((1 : ℚ) + 1 / 2 ^ 53) ^ k - 1 ≤ 1 / 2 :=
    calc ((1 : ℚ) + 1 / 2 ^ 53) ^ k - 1 ≤ (1 + 1 / 2 ^ 53) ^ 2 - 1 := by
          gcongr
          norm_num
      _ ≤ 1 / 2 := by norm_num
  rcases hy with rfl | hy
  · -- of nothing no rounding makes a quotient
    have hzero := h.le
    rw [zero_mul] at hzero
    exact absurd (div_pos hnpos hdpos) (not_lt.mpr hzero)
  · have hpow : (0 : ℚ) < 2 ^ j := by positivity
    have hypos : 0 < y := by
      by_contra hneg
      nlinarith
    have hhalf : y / 2 ≤ n / d := by
      have hge := (abs_le.mp h).1
      nlinarith
    have hone : (1 : ℚ) ≤ n / d * 2 ^ (j + 1) :=
      calc (1 : ℚ) ≤ y * 2 ^ j := hy
        _ = y / 2 * 2 ^ (j + 1) := by ring
        _ ≤ n / d * 2 ^ (j + 1) := by gcongr
    rw [div_mul_eq_mul_div, le_div_iff₀ hdpos, one_mul] at hone
    exact_mod_cast hone

theorem value_ofNat (n : Nat) : Rounds 1 (ofNat n).value n := by
  have hn : (n : ℚ) = 0 ∨ (1 : ℚ) ≤ n * 2 ^ 0 := by
    rcases Nat.eq_zero_or_pos n with rfl | hpos
    · exact .inl Nat.cast_zero
    · refine .inr ?_
      rw [pow_zero, mul_one]
      exact_mod_cast hpos
  refine Rounds.ofQuotient (by omega) (by omega) one_ne_zero hn ?_
  rw [Nat.cast_one, div_one]
  exact .refl _

/-- The quotient that is rounded for a sum is the sum. -/
theorem quotient_add (x y : Double) :
    ((x.num * y.den + y.num * x.den : Nat) : ℚ) / (x.den * y.den : Nat) = x.value + y.value := by
  have hx : (x.den : ℚ) ≠ 0 := by exact_mod_cast x.den_pos.ne'
  have hy : (y.den : ℚ) ≠ 0 := by exact_mod_cast y.den_pos.ne'
  unfold value
  push_cast
  field_simp

theorem quotient_mul (x y : Double) :
    ((x.num * y.num : Nat) : ℚ) / (x.den * y.den : Nat) = x.value * y.value := by
  unfold value
  push_cast
  rw [mul_div_mul_comm]

end ClusterFeed.Double
