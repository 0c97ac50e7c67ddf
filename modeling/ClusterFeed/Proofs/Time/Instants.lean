import ClusterFeed.Proofs.Digits
import ClusterFeed.Proofs.Time.Calendar
import ClusterFeed.Time.Instant
import Mathlib.Algebra.Ring.Nat

/-!
# Instants and their texts

The text of an instant is read as the instant, to the nanosecond, as long as its year has four
digits and it lies in no leap second.
-/

namespace ClusterFeed.Time

namespace Instant

/-- The year of an instant has four digits at most and no sign, and no leap second goes on. -/
structure IsPlain (t : Instant) : Prop where
  /-- The year is not before the year 0. -/
  yearNonneg : 0 ≤ (Date.ofDayNumber (t.seconds.fdiv 86400)).year
  /-- The year has four digits. -/
  yearShort : (Date.ofDayNumber (t.seconds.fdiv 86400)).year ≤ 9999
  /-- The nanoseconds make less than a second. -/
  nanosShort : t.nanos < 1000000000

/-! ## Numbers with a fixed count of digits -/

section

variable {width n : Nat} {rest : List Char}

theorem digits_padded (width n : Nat) : Digits (padded width n) := by
  have hds := Digits.toDigits n
  refine ⟨fun h => hds.1 (List.append_eq_nil_iff.mp h).2, List.forall_mem_append.mpr ⟨?_, hds.2⟩⟩
  intro d hd
  rw [(List.mem_replicate.mp hd).2]
  rfl

theorem length_padded (hwidth : 0 < width) (hn : n < 10 ^ width) :
    (padded width n).length = width := by
  have hlen := (Nat.length_toDigits_le_iff (k := width) (by decide) hwidth).mpr hn
  simp only [padded, List.length_append, List.length_replicate]
  omega

/-- A number is read up to where no digit follows. -/
theorem number?_padded {most : Nat} (hwidth : 0 < width) (hmost : width ≤ most)
    (hn : n < 10 ^ width) (hrest : ∀ c ∈ rest.head?, c.isDigit = false) :
    number? most (padded width n ++ rest) = some (n, rest) := by
  have hlen := length_padded hwidth hn
  have htake : ((padded width n ++ rest).take most).takeWhile Char.isDigit = padded width n := by
    rw [List.take_append, List.take_of_length_le (by omega)]
    refine (digits_padded width n).takeWhile_append fun c hc => hrest c ?_
    rw [List.head?_take] at hc
    split at hc
    · cases hc
    · exact hc
  have hvalue : Json.natOfDigits (padded width n) = n := Json.natOfDigits_zeros _ n
  have hempty : (padded width n).isEmpty = false :=
    List.isEmpty_eq_false_iff.mpr (digits_padded width n).1
  simp only [number?, htake, hempty, Bool.false_eq_true, if_false, List.drop_left]
  exact congrArg (fun m => some (m, rest)) hvalue

theorem trimStart_digits {ds : List Char} (h : Digits ds) (rest : List Char) :
    Text.trimStart (ds ++ rest) = ds ++ rest := by
  obtain ⟨d, ds', rfl, hd⟩ := h.exists_cons
  have hblank : Text.isBlank d = false := by
    simp only [Char.isDigit, Bool.and_eq_true, decide_eq_true_eq, UInt32.le_iff_toNat_le] at hd
    have hlow : 48 ≤ d.toNat := hd.1
    have hhigh : d.toNat ≤ 57 := hd.2
    simp [Text.isBlank]
    omega
  rw [List.cons_append, Text.trimStart, List.dropWhile_cons, hblank]
  rfl

theorem noDigit_cons {c : Char} (hc : c.isDigit = false) (rest : List Char) :
    ∀ d ∈ (c :: rest).head?, d.isDigit = false := by
  intro d hd
  cases hd
  exact hc

theorem pair?_padded (hn : n < 100) (hrest : ∀ c ∈ rest.head?, c.isDigit = false) :
    pair? (padded 2 n ++ rest) = some (n, rest) := by
  unfold pair?
  rw [trimStart_digits (digits_padded 2 n), number?_padded (by decide) (Nat.le_refl 2) hn hrest]

theorem year?_yearChars {y : Int} (hy : 0 ≤ y ∧ y ≤ 9999)
    (hrest : ∀ c ∈ rest.head?, c.isDigit = false) :
    year? (yearChars y ++ rest) = some (y, rest) := by
  have hds := digits_padded 4 y.toNat
  have hnumber : number? 4 (padded 4 y.toNat ++ rest) = some (y.toNat, rest) :=
    number?_padded (by decide) (Nat.le_refl 4) (by omega) hrest
  rw [yearChars, if_pos hy]
  unfold year?
  rw [trimStart_digits hds]
  obtain ⟨d, ds, heq, hd⟩ := hds.exists_cons
  rw [heq, List.cons_append] at hnumber ⊢
  -- a digit is no sign
  split
  · next hsign =>
    cases (List.cons.inj hsign).1
    cases hd
  · next hsign =>
    cases (List.cons.inj hsign).1
    cases hd
  · rw [hnumber, Option.map_some, Int.toNat_of_nonneg hy.1]

/-- A fraction is scaled to nanoseconds. -/
theorem fraction?_padded (hwidth : 0 < width) (hmost : width ≤ 9) (hn : n < 10 ^ width) :
    fraction? ('.' :: padded width n ++ ['Z']) = some (n * 10 ^ (9 - width), ['Z']) := by
  have hnumber : number? 9 (padded width n ++ ['Z']) = some (n, ['Z']) :=
    number?_padded hwidth hmost hn (noDigit_cons rfl [])
  have hlen : (padded width n ++ ['Z']).length - ['Z'].length = width := by
    rw [List.length_append, length_padded hwidth hn, Nat.add_sub_cancel]
  show (number? 9 (padded width n ++ ['Z'])).map _ = _
  rw [hnumber, Option.map_some]
  show some (n * Nat.pow 10 (9 - ((padded width n ++ ['Z']).length - ['Z'].length)), _) = _
  rw [hlen]
  rfl

end

theorem fraction?_fractionChars {nanos : Nat} (h : nanos < 1000000000) :
    fraction? (fractionChars nanos ++ ['Z']) = some (nanos, ['Z']) := by
  simp only [fractionChars, Nat.mod_eq_of_lt h]
  split
  · next hzero =>
    rw [hzero]
    rfl
  split
  · rw [fraction?_padded (by decide) (by decide) (by omega)]
    congr 2
    omega
  split
  · rw [fraction?_padded (by decide) (by decide) (by omega)]
    congr 2
    omega
  · rw [fraction?_padded (by decide) (by decide) (by omega)]
    congr 2
    omega

theorem fractionChars_head (nanos : Nat) :
    ∀ c ∈ (fractionChars nanos ++ ['Z']).head?, c.isDigit = false := by
  intro c hc
  simp only [fractionChars] at hc
  split at hc
  · cases hc
    rfl
  split at hc
  · cases hc
    rfl
  split at hc <;> (cases hc; rfl)

theorem mark?_self {c : Char} (hc : Text.isBlank c = false) (rest : List Char) :
    mark? c (c :: rest) = some rest := by
  simp [mark?, Text.trimStart, hc]

/-! ## The whole text -/

/-- A text in universal time that is read part by part. -/
theorem parse?_of_parts {s : String} {date : Date} {hour minute second nanos : Nat}
    {c₁ c₂ c₃ c₄ c₅ c₆ c₇ c₈ c₉ c₁₀ c₁₁ : List Char}
    (hyear : year? s.toList = some (date.year, c₁)) (hyearEnd : mark? '-' c₁ = some c₂)
    (hmonth : pair? c₂ = some (date.month, c₃)) (hmonthEnd : mark? '-' c₃ = some c₄)
    (hday : pair? c₄ = some (date.day, 'T' :: c₅)) (hhour : pair? c₅ = some (hour, c₆))
    (hhourEnd : mark? ':' c₆ = some c₇) (hminute : pair? c₇ = some (minute, c₈))
    (hminuteEnd : mark? ':' c₈ = some c₉) (hsecond : pair? c₉ = some (second, c₁₀))
    (hfraction : fraction? c₁₀ = some (nanos, c₁₁))
    (hoffset : offset? (Text.trimStart c₁₁) = some (0, []))
    (hvalid : date.isValid = true) (hrange : yearInRange date.year = true)
    (htime : hour ≤ 23 ∧ minute ≤ 59 ∧ second < 60) {seconds : Int}
    (hseconds : date.dayNumber * 86400 + hour * 3600 + minute * 60 + second = seconds)
    (hday' : Date.ofDayNumber (seconds.fdiv 86400) = date) :
    parse? s = some ⟨seconds, nanos⟩ := by
  refine Option.bind_eq_some_iff.mpr ⟨_, hyear, ?_⟩
  refine Option.bind_eq_some_iff.mpr ⟨_, hyearEnd, ?_⟩
  refine Option.bind_eq_some_iff.mpr ⟨_, hmonth, ?_⟩
  refine Option.bind_eq_some_iff.mpr ⟨_, hmonthEnd, ?_⟩
  refine Option.bind_eq_some_iff.mpr ⟨_, hday, ?_⟩
  refine Option.bind_eq_some_iff.mpr ⟨c₅, rfl, ?_⟩
  refine Option.bind_eq_some_iff.mpr ⟨_, hhour, ?_⟩
  refine Option.bind_eq_some_iff.mpr ⟨_, hhourEnd, ?_⟩
  refine Option.bind_eq_some_iff.mpr ⟨_, hminute, ?_⟩
  refine Option.bind_eq_some_iff.mpr ⟨_, hminuteEnd, ?_⟩
  refine Option.bind_eq_some_iff.mpr ⟨_, hsecond, ?_⟩
  refine Option.bind_eq_some_iff.mpr ⟨_, hfraction, ?_⟩
  refine Option.bind_eq_some_iff.mpr ⟨_, hoffset, ?_⟩
  have hfine : (!(Text.trimStart []).isEmpty || !date.isValid || !yearInRange date.year ||
      decide (hour > 23) || decide (minute > 59) || decide (second > 60) ||
        decide ((0 : Int).natAbs ≥ 86400)) = false := by
    rw [hvalid, hrange, decide_eq_false (Nat.not_lt.mpr htime.1),
      decide_eq_false (Nat.not_lt.mpr htime.2.1),
      decide_eq_false (Nat.not_lt.mpr (Nat.le_of_lt htime.2.2))]
    rfl
  have hleap : (if second = 60 then 1 else 0) = 0 := if_neg (Nat.ne_of_lt htime.2.2)
  have htotal : date.dayNumber * 86400 + (hour : Int) * 3600 + (minute : Int) * 60 +
      (second : Int) - ((0 : Nat) : Int) - 0 = seconds := by
    rw [hseconds, Int.natCast_zero, Int.sub_zero, Int.sub_zero]
  refine (if_neg (Bool.eq_false_iff.mp hfine)).trans ?_
  dsimp only
  rw [hleap, htotal, hday', hrange]
  rfl

/-- The text of an instant is read as the instant. -/
theorem parse?_render {t : Instant} (h : t.IsPlain) : parse? t.render = some t := by
  obtain ⟨seconds, nanos⟩ := t
  -- the date and the second of the day
  obtain ⟨date, hdate⟩ : ∃ date, Date.ofDayNumber (seconds.fdiv 86400) = date := ⟨_, rfl⟩
  obtain ⟨s, hs⟩ : ∃ s : Nat, (seconds - seconds.fdiv 86400 * 86400).toNat = s := ⟨_, rfl⟩
  have hvalid : date.isValid = true := hdate ▸ Date.isValid_ofDayNumber _
  have hnumber : date.dayNumber = seconds.fdiv 86400 := hdate ▸ Date.dayNumber_ofDayNumber _
  have hyear : 0 ≤ date.year ∧ date.year ≤ 9999 := hdate ▸ ⟨h.yearNonneg, h.yearShort⟩
  have hnanos : nanos < 1000000000 := h.nanosShort
  have hsplit : seconds.fdiv 86400 * 86400 + s = seconds ∧ s < 86400 := by
    rw [Int.fdiv_eq_ediv_of_nonneg _ (by decide)] at hs ⊢
    omega
  have hmonth : date.month < 100 ∧ date.day < 100 := by
    simp only [Date.isValid, Bool.and_eq_true, decide_eq_true_eq] at hvalid
    have hdays : daysInMonth date.year date.month ≤ 31 := by
      unfold daysInMonth
      split
      · split <;> decide
      · split <;> decide
    omega
  have hleap : ¬ nanos ≥ 1000000000 := by omega
  have hrange : yearInRange date.year = true := by
    simp only [yearInRange, Bool.and_eq_true, decide_eq_true_eq]
    omega
  have hrender : (Instant.render ⟨seconds, nanos⟩).toList = yearChars date.year ++ ('-' ::
      (padded 2 date.month ++ ('-' :: (padded 2 date.day ++ ('T' :: (padded 2 (s / 3600) ++ (':' ::
        (padded 2 (s / 60 % 60) ++ (':' :: (padded 2 (s % 60) ++
          (fractionChars nanos ++ ['Z']))))))))))) := by
    simp only [render, String.toList_ofList, secondChars, hdate, hs, if_neg hleap, Nat.add_zero,
      List.append_assoc, List.cons_append]
  have htotal : date.dayNumber * 86400 + (s / 3600 : Nat) * 3600 + (s / 60 % 60 : Nat) * 60 +
      (s % 60 : Nat) = seconds := by
    rw [hnumber]
    omega
  exact parse?_of_parts (hrender ▸ year?_yearChars hyear (noDigit_cons rfl _)) (mark?_self rfl _)
    (pair?_padded hmonth.1 (noDigit_cons rfl _)) (mark?_self rfl _)
    (pair?_padded hmonth.2 (noDigit_cons rfl _)) (pair?_padded (by omega) (noDigit_cons rfl _))
    (mark?_self rfl _) (pair?_padded (by omega) (noDigit_cons rfl _)) (mark?_self rfl _)
    (pair?_padded (by omega) (fractionChars_head nanos)) (fraction?_fractionChars hnanos) rfl hvalid
    hrange (by omega) htotal hdate

/-- The text of an instant to the second is read as the beginning of its second. -/
theorem parse?_renderSeconds {t : Instant} (h : t.IsPlain) :
    parse? t.renderSeconds = some ⟨t.seconds, 0⟩ := by
  have hleap : ¬ t.nanos ≥ 1000000000 := Nat.not_le.mpr h.nanosShort
  have hsecond : t.secondChars = secondChars ⟨t.seconds, 0⟩ := by
    unfold secondChars
    dsimp only
    rw [if_neg hleap]
    rfl
  have hrender : t.renderSeconds = render ⟨t.seconds, 0⟩ := by
    unfold renderSeconds render
    rw [hsecond]
    exact congrArg (fun cs => String.ofList (cs ++ ['Z'])) (List.append_nil _).symm
  have hstart : IsPlain ⟨t.seconds, 0⟩ := ⟨h.yearNonneg, h.yearShort, Nat.zero_lt_succ _⟩
  rw [hrender]
  exact parse?_render hstart

end Instant

end ClusterFeed.Time
