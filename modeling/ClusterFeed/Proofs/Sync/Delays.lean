import ClusterFeed.Proofs.CommandLine.Numbers
import ClusterFeed.Proofs.Double.Rounding
import ClusterFeed.Sync.Backoff
import Mathlib.Algebra.Order.Group.MinMax

/-!
# The waits before retries

The wait without the random factor grows with the number of the retry up to the longest wait, and no
factor makes it longer than that. The product with the factor is computed in double precision, with
three roundings. So it is the exact product but for a very small part of it, and there is no wait
only if the product comes up to `2 ^ 64` seconds in double precision: the exact one can be less, but
not by two hours. Waits that are given in milliseconds of 64 bits are never so long.

This is `delay`.
-/

namespace ClusterFeed

open Double (Rounds roundDiv)

namespace Time.Duration

/-- The seconds of a duration in double precision are rounded twice. -/
theorem rounds_inSeconds (d : Duration) : Rounds 2 d.inSeconds.value (d.nanos / 10 ^ 9) := by
  have hparts : (d.nanos : ℚ) / 10 ^ 9 = d.seconds + (d.subNanos / perSecond : ℚ) := by
    have h : (d.nanos : ℚ) = (d.seconds * perSecond + d.subNanos : Nat) := by
      rw [seconds, subNanos, Nat.div_add_mod']
    rw [h]
    unfold perSecond
    push_cast
    ring
  have hsmall : (d.nanos : ℚ) / 10 ^ 9 = 0 ∨ 1 ≤ (d.nanos : ℚ) / 10 ^ 9 * 2 ^ 30 := by
    rcases Nat.eq_zero_or_pos d.nanos with hzero | hpos
    · refine .inl ?_
      rw [hzero]
      norm_num
    · have hone : (1 : ℚ) ≤ d.nanos := by exact_mod_cast hpos
      refine .inr ?_
      linarith
  have hsub : Rounds 1 (Double.ofQuotient d.subNanos perSecond).value (d.subNanos / perSecond) := by
    refine Rounds.ofQuotient (j := 30) (by omega) (by omega) (by decide) ?_ (.refl _)
    rcases Nat.eq_zero_or_pos d.subNanos with hzero | hpos
    · refine .inl ?_
      rw [hzero]
      norm_num
    · have hone : (1 : ℚ) ≤ d.subNanos := by exact_mod_cast hpos
      refine .inr ?_
      unfold perSecond
      push_cast
      linarith
  have hsum := (Double.value_ofNat d.seconds).add hsub
  rw [← hparts, ← Double.quotient_add] at hsum
  refine hsum.ofQuotient (by omega) (by omega) ?_ hsmall
  exact (Nat.mul_pos (Double.den_pos _) (Double.den_pos _)).ne'

end Time.Duration

namespace Sync

open CommandLine (Invocation RunSettings)
open Time (Duration)

/-- A random factor as it is drawn: from three quarters to five quarters. -/
structure Jitter where
  factor : Double
  low : 3 * factor.den ≤ 4 * factor.num
  high : 4 * factor.num ≤ 5 * factor.den

theorem Jitter.low_value (j : Jitter) : 3 / 4 ≤ j.factor.value := by
  have hden : (0 : ℚ) < j.factor.den := by exact_mod_cast j.factor.den_pos
  have hlow : (3 : ℚ) * j.factor.den ≤ 4 * j.factor.num := by exact_mod_cast j.low
  unfold Double.value
  rw [le_div_iff₀ hden]
  linarith

namespace Backoff

variable (b : Backoff) (j : Jitter) (retry : Nat)

/-- The product of the wait and the factor, in seconds and in double precision. -/
def product : Double := j.factor.mul (b.base retry).inSeconds

/-- The wait if the product were exact: rounded to the nearest nanosecond, and no longer than the
longest one. -/
def exactDelay : Nat :=
  min (roundDiv ((b.base retry).nanos * j.factor.num) j.factor.den) b.longest.nanos

/-! ## Without the factor -/

theorem doublings_eq : doublings retry = min (max retry 1 - 1) 31 := by
  show min (retry - 1) 31 = min (max retry 1 - 1) 31
  omega

/-- How often the first wait is taken has 32 bits. -/
theorem two_pow_doublings_lt : 2 ^ doublings retry < 2 ^ 32 := by
  refine Nat.pow_lt_pow_right (by omega) ?_
  have := doublings_eq retry
  omega

theorem base_nanos : (b.base retry).nanos =
    min (min (b.initial.nanos * 2 ^ min (max retry 1 - 1) 31) Duration.maxNanos)
      b.longest.nanos := by
  rw [← doublings_eq]
  rfl

variable {b j retry}

theorem base_mono {retry' : Nat} (h : retry ≤ retry') :
    (b.base retry).nanos ≤ (b.base retry').nanos := by
  have hpow : 2 ^ min (max retry 1 - 1) 31 ≤ 2 ^ min (max retry' 1 - 1) 31 :=
    Nat.pow_le_pow_right (by omega) (by omega)
  have hmul := Nat.mul_le_mul_left b.initial.nanos hpow
  rw [base_nanos, base_nanos]
  omega

theorem base_le_longest (b : Backoff) (retry : Nat) :
    (b.base retry).nanos ≤ b.longest.nanos := Nat.min_le_right _ _

/-! ## With the factor -/

/-- The product is rounded three times. -/
theorem rounds_product (b : Backoff) (j : Jitter) (retry : Nat) : Rounds 3
    (b.product j retry).value (j.factor.value * ((b.base retry).nanos / 10 ^ 9)) := by
  have hlow := j.low_value
  have hmul := (b.base retry).rounds_inSeconds.mul_left (Double.value_nonneg j.factor)
  rw [← Double.quotient_mul] at hmul
  refine hmul.ofQuotient (j := 31) (by omega) (by omega) ?_ ?_
  · exact (Nat.mul_pos (Double.den_pos _) (Double.den_pos _)).ne'
  · rcases Nat.eq_zero_or_pos (b.base retry).nanos with hzero | hpos
    · refine .inl ?_
      rw [hzero]
      norm_num
    · have hone : (1 : ℚ) ≤ (b.base retry).nanos := by exact_mod_cast hpos
      refine .inr ?_
      nlinarith

theorem delay?_eq : b.delay? retry j.factor =
    if 2 ^ 64 ≤ (b.product j retry).value then none
    else some ⟨min (roundDiv ((b.product j retry).num * Duration.perSecond)
      (b.product j retry).den) b.longest.nanos⟩ := by
  have hden : (0 : ℚ) < (b.product j retry).den := by exact_mod_cast Double.den_pos _
  have hcond : (b.product j retry).num < Nat.pow 2 64 * (b.product j retry).den ↔
      ¬ 2 ^ 64 ≤ (b.product j retry).value := by
    rw [not_le, Double.value, div_lt_iff₀ hden]
    norm_cast
  unfold delay? Duration.scale? Duration.ofDouble?
  show Option.map _ (if (b.product j retry).num < Nat.pow 2 64 * (b.product j retry).den then _
    else _) = _
  split
  · rename_i h
    rw [if_neg (hcond.mp h)]
    rfl
  · rename_i h
    rw [if_pos (not_not.mp fun hn => h (hcond.mpr hn))]
    rfl

theorem delay?_eq_none_iff :
    b.delay? retry j.factor = none ↔ 2 ^ 64 ≤ (b.product j retry).value := by
  rw [delay?_eq]
  split <;> simp [*]

/-- The exact wait lies where the bounds of the factor put it. -/
theorem exactDelay_bounds :
    min (roundDiv (3 * (b.base retry).nanos) 4) b.longest.nanos ≤ b.exactDelay j retry ∧
      b.exactDelay j retry ≤ min (roundDiv (5 * (b.base retry).nanos) 4) b.longest.nanos := by
  have hlow : roundDiv (3 * (b.base retry).nanos) 4 ≤
      roundDiv ((b.base retry).nanos * j.factor.num) j.factor.den := by
    refine Double.roundDiv_le_roundDiv (by omega) j.factor.den_pos ?_
    have := Nat.mul_le_mul_left (b.base retry).nanos j.low
    calc 3 * (b.base retry).nanos * j.factor.den
        = (b.base retry).nanos * (3 * j.factor.den) := by ring
      _ ≤ (b.base retry).nanos * (4 * j.factor.num) := this
      _ = (b.base retry).nanos * j.factor.num * 4 := by ring
  have hhigh : roundDiv ((b.base retry).nanos * j.factor.num) j.factor.den ≤
      roundDiv (5 * (b.base retry).nanos) 4 := by
    refine Double.roundDiv_le_roundDiv j.factor.den_pos (by omega) ?_
    have := Nat.mul_le_mul_left (b.base retry).nanos j.high
    calc (b.base retry).nanos * j.factor.num * 4
        = (b.base retry).nanos * (4 * j.factor.num) := by ring
      _ ≤ (b.base retry).nanos * (5 * j.factor.den) := this
      _ = 5 * (b.base retry).nanos * j.factor.den := by ring
  unfold exactDelay
  omega

/-- What double precision makes of the exact product, in nanoseconds. -/
theorem abs_product_sub_le (b : Backoff) (j : Jitter) (retry : Nat) :
    |(b.product j retry).value * 10 ^ 9 - (b.base retry).nanos * j.factor.value| ≤
      (b.base retry).nanos * j.factor.value / 2 ^ 51 := by
  have hround : |(b.product j retry).value - j.factor.value * ((b.base retry).nanos / 10 ^ 9)| ≤
      j.factor.value * ((b.base retry).nanos / 10 ^ 9) * ((1 + 1 / 2 ^ 53) ^ 3 - 1) :=
    b.rounds_product j retry
  have hpos : (0 : ℚ) ≤ (b.base retry).nanos * j.factor.value :=
    mul_nonneg (Nat.cast_nonneg _) j.factor.value_nonneg
  calc |(b.product j retry).value * 10 ^ 9 - (b.base retry).nanos * j.factor.value|
      = |((b.product j retry).value -
          j.factor.value * ((b.base retry).nanos / 10 ^ 9)) * 10 ^ 9| := by
        congr 1
        ring
    _ = |(b.product j retry).value -
          j.factor.value * ((b.base retry).nanos / 10 ^ 9)| * 10 ^ 9 := by
        rw [abs_mul, abs_of_pos (by norm_num : (0 : ℚ) < 10 ^ 9)]
    _ ≤ j.factor.value * ((b.base retry).nanos / 10 ^ 9) * ((1 + 1 / 2 ^ 53) ^ 3 - 1) * 10 ^ 9 := by
        gcongr
    _ = (b.base retry).nanos * j.factor.value * ((1 + 1 / 2 ^ 53) ^ 3 - 1) := by ring
    _ ≤ (b.base retry).nanos * j.factor.value * (1 / 2 ^ 51) := by
        gcongr
        norm_num
    _ = (b.base retry).nanos * j.factor.value / 2 ^ 51 := by ring

/-- The wait is the exact one, but for a nanosecond and a very small part of it. -/
theorem abs_delay_sub_le {d : Duration} (h : b.delay? retry j.factor = some d) :
    |(d.nanos : ℚ) - b.exactDelay j retry| ≤
      (b.base retry).nanos * j.factor.value / 2 ^ 51 + 1 := by
  rw [delay?_eq] at h
  split at h
  · cases h
  · cases h
    have hcomputed := Double.abs_roundDiv_sub_le (n := (b.product j retry).num * Duration.perSecond)
      (b.product j retry).den_pos
    have hexact := Double.abs_roundDiv_sub_le (n := (b.base retry).nanos * j.factor.num)
      j.factor.den_pos
    have hvalue : (((b.product j retry).num * Duration.perSecond : Nat) : ℚ) /
        (b.product j retry).den = (b.product j retry).value * 10 ^ 9 := by
      unfold Double.value Duration.perSecond
      push_cast
      ring
    have hvalue' : (((b.base retry).nanos * j.factor.num : Nat) : ℚ) / j.factor.den =
        (b.base retry).nanos * j.factor.value := by
      unfold Double.value
      push_cast
      ring
    rw [hvalue] at hcomputed
    rw [hvalue'] at hexact
    have hproduct := b.abs_product_sub_le j retry
    -- the longest wait caps both alike
    unfold exactDelay
    push_cast
    refine (abs_min_sub_min_le_max _ _ _ _).trans ?_
    rw [sub_self, abs_zero, max_eq_left (abs_nonneg _)]
    rw [abs_le] at *
    constructor <;> linarith

/-- Where there is no wait the exact product is less than two hours from `2 ^ 64` seconds. -/
theorem le_of_delay?_eq_none (h : b.delay? retry j.factor = none) :
    (2 ^ 64 - 6144) * 10 ^ 9 * j.factor.den ≤ (b.base retry).nanos * j.factor.num := by
  have hden : (0 : ℚ) < j.factor.den := by exact_mod_cast j.factor.den_pos
  have hle := (b.rounds_product j retry).le
  have hbig := (delay?_eq_none_iff.mp h).trans hle
  have hexact : (2 ^ 64 - 6144 : ℚ) * 10 ^ 9 ≤ (b.base retry).nanos * j.factor.value := by
    by_contra hless
    rw [not_le] at hless
    have hsmall : j.factor.value * ((b.base retry).nanos / 10 ^ 9) * (1 + 1 / 2 ^ 53) ^ 3 <
        (2 ^ 64 - 6144 : ℚ) * (1 + 1 / 2 ^ 53) ^ 3 := by
      gcongr
      linarith
    have hnum : (2 ^ 64 - 6144 : ℚ) * (1 + 1 / 2 ^ 53) ^ 3 ≤ 2 ^ 64 := by norm_num
    linarith
  unfold Double.value at hexact
  rw [← mul_div_assoc, le_div_iff₀ hden] at hexact
  have hcast : (((2 ^ 64 - 6144) * 10 ^ 9 * j.factor.den : Nat) : ℚ) ≤
      ((b.base retry).nanos * j.factor.num : Nat) := by
    push_cast
    norm_num at hexact ⊢
    linarith
  exact_mod_cast hcast

/-- With a longest wait in milliseconds of 64 bits there always is a wait. -/
theorem delay?_ne_none (h : b.longest.nanos < 2 ^ 64 * 10 ^ 6) :
    b.delay? retry j.factor ≠ none := by
  intro hnone
  have hle := le_of_delay?_eq_none hnone
  have hbase := b.base_le_longest retry
  have hnum := Nat.mul_le_mul_left (b.base retry).nanos j.high
  have hpos := j.factor.den_pos
  have hmul := Nat.mul_lt_mul_of_pos_right (Nat.lt_of_le_of_lt hbase h) hpos
  have hassoc : (b.base retry).nanos * (4 * j.factor.num) =
      4 * ((b.base retry).nanos * j.factor.num) := by ring
  have hassoc' : (b.base retry).nanos * (5 * j.factor.den) =
      5 * ((b.base retry).nanos * j.factor.den) := by ring
  omega

/-! ## The whole of it -/

/-- The waits stay within their bounds, with any factor. -/
structure Bounded (b : Backoff) (j : Jitter) : Prop where
  /-- The first wait is doubled at most 31 times, so that it is multiplied by 32 bits; neither the
  longest duration nor the longest wait is exceeded. -/
  base : ∀ retry, 2 ^ doublings retry < 2 ^ 32 ∧ (b.base retry).nanos =
    min (min (b.initial.nanos * 2 ^ min (max retry 1 - 1) 31) Duration.maxNanos) b.longest.nanos
  /-- It does not shrink from retry to retry. -/
  grows : ∀ retry retry', retry ≤ retry' → (b.base retry).nanos ≤ (b.base retry').nanos
  /-- No factor makes it longer than the longest wait. -/
  capped : ∀ retry d, b.delay? retry j.factor = some d → d.nanos ≤ b.longest.nanos
  /-- With an exact product it lies between three quarters and five quarters, -/
  exact : ∀ retry,
    min (roundDiv (3 * (b.base retry).nanos) 4) b.longest.nanos ≤ b.exactDelay j retry ∧
      b.exactDelay j retry ≤ min (roundDiv (5 * (b.base retry).nanos) 4) b.longest.nanos
  /-- and double precision is next to it. -/
  near : ∀ retry d, b.delay? retry j.factor = some d →
    |(d.nanos : ℚ) - b.exactDelay j retry| ≤ (b.base retry).nanos * j.factor.value / 2 ^ 51 + 1
  /-- There is no wait just if the product comes up to `2 ^ 64` seconds in double precision, -/
  none_iff : ∀ retry, b.delay? retry j.factor = none ↔
    2 ^ 64 * (b.product j retry).den ≤ (b.product j retry).num
  /-- and then the exact one is less than two hours from there. -/
  late : ∀ retry, b.delay? retry j.factor = none →
    (2 ^ 64 - 6144) * 10 ^ 9 * j.factor.den ≤ (b.base retry).nanos * j.factor.num
  /-- Waits in milliseconds of 64 bits are never so long, -/
  millis : ∀ initial longest, longest < 2 ^ 64 → b = ⟨.ofMillis initial, .ofMillis longest⟩ →
    ∀ retry, b.delay? retry j.factor ≠ none
  /-- and no others come from the command line. -/
  commanded : ∀ (env : Invocation.Environment) (words : List String) (i : Invocation)
    (s : RunSettings) (endpoint : String), Invocation.ofWords env words = .ok i →
    i.command = .run s → (s.options.clientConfig endpoint).backoff = b →
    (∃ initial longest, initial < 2 ^ 64 ∧ longest < 2 ^ 64 ∧
      b = ⟨.ofMillis initial, .ofMillis longest⟩) ∧ ∀ retry, b.delay? retry j.factor ≠ none

/-- All waits are bounded, and there always is one unless it came close to `2 ^ 64` seconds. -/
theorem delays_are_bounded (b : Backoff) (j : Jitter) : b.Bounded j := by
  have hmillis : ∀ initial longest, longest < 2 ^ 64 → b = ⟨.ofMillis initial, .ofMillis longest⟩ →
      ∀ retry, b.delay? retry j.factor ≠ none := by
    intro initial longest hlongest hb retry
    refine delay?_ne_none ?_
    rw [hb]
    show longest * 1000000 < 2 ^ 64 * 10 ^ 6
    omega
  refine
    { base := fun retry => ⟨two_pow_doublings_lt retry, b.base_nanos retry⟩
      grows := fun retry retry' => base_mono
      capped := fun retry d hd => ?_
      exact := fun retry => exactDelay_bounds
      near := fun retry d => abs_delay_sub_le
      none_iff := fun retry => ?_
      late := fun retry => le_of_delay?_eq_none
      millis := hmillis
      commanded := fun env words i s endpoint hi hs hb => ?_ }
  · rw [delay?_eq] at hd
    split at hd
    · cases hd
    · cases hd
      exact Nat.min_le_right _ _
  · have hden : (0 : ℚ) < (b.product j retry).den := by exact_mod_cast Double.den_pos _
    rw [delay?_eq_none_iff, Double.value, le_div_iff₀ hden]
    exact_mod_cast Iff.rfl
  · obtain ⟨hinitial, hlongest⟩ := Invocation.backoff_lt hi hs
    exact ⟨⟨_, _, hinitial, hlongest, hb.symm⟩, hmillis _ _ hlongest hb.symm⟩

/-- A first wait that is almost too long for the factor below. -/
def overlong : Backoff := ⟨.ofSeconds 16535908880784961949, .longest⟩

/-- A factor of about `1.1155567079318522`. -/
def stretch : Jitter := ⟨⟨5024020774152547, -52⟩, by decide, by decide⟩

/-- Double precision can be without a wait where the exact product is below `2 ^ 64` seconds. -/
theorem no_delay_below_limit : overlong.delay? 1 stretch.factor = none ∧
    (overlong.base 1).nanos * stretch.factor.num < 2 ^ 64 * 10 ^ 9 * stretch.factor.den := by
  decide +kernel

end Backoff

end Sync

end ClusterFeed
