import ClusterFeed.Time.Calendar

/-!
# Dates and their numbers

Every day number has a date that exists, and the number of that date is the day number again. The
years of an era of 400 are counted from March, so that a year is one day longer exactly when a leap
day ends it.
-/

namespace ClusterFeed.Time

/-! ## The years of an era -/

/-- The first day of a year of an era. -/
def startOfYear (y : Nat) : Nat := y * 365 + y / 4 - y / 100

/-- The year of an era in which a day lies. -/
def yearOfEra (d : Nat) : Nat := (d - d / 1460 + d / 36524 - d / 146096) / 365

theorem yearOfEra_mono {c d : Nat} (h : c ≤ d) (hd : d < 146097) : yearOfEra c ≤ yearOfEra d := by
  have hquad : c - c / 1460 ≤ d - d / 1460 := by omega
  have hcentury : c / 36524 - c / 146096 ≤ d / 36524 - d / 146096 := by omega
  unfold yearOfEra
  omega

/-- A year begins with its first day, and the day before belongs to the year before. -/
theorem yearOfEra_startOfYear : ∀ y < 400, yearOfEra (startOfYear y) = y ∧
    yearOfEra (startOfYear y - 1) = y - 1 := by
  decide +kernel

/-- The year of a day is the one that has begun last. -/
theorem yearOfEra_bounds {d : Nat} (hd : d < 146097) :
    yearOfEra d < 400 ∧ startOfYear (yearOfEra d) ≤ d ∧
      (yearOfEra d < 399 → d < startOfYear (yearOfEra d + 1)) := by
  have hyear : yearOfEra d < 400 := by
    unfold yearOfEra
    omega
  refine ⟨hyear, Nat.le_of_not_lt fun hlt => ?_, fun hless => Nat.lt_of_not_le fun hle => ?_⟩
  · have hbefore := (yearOfEra_startOfYear _ hyear).2
    have hmono := yearOfEra_mono (c := d) (d := startOfYear (yearOfEra d) - 1) (by omega)
      (by unfold startOfYear; omega)
    have hpos : 0 < yearOfEra d := by
      refine Nat.pos_of_ne_zero fun hzero => ?_
      rw [hzero] at hlt
      exact Nat.not_lt_zero _ hlt
    omega
  · have hafter := (yearOfEra_startOfYear (yearOfEra d + 1) (by omega)).1
    have hmono := yearOfEra_mono hle hd
    omega

/-- A year of an era has 366 days exactly when the next one is a leap year. -/
theorem dayOfYear_bounds {d : Nat} (hd : d < 146097) :
    d - startOfYear (yearOfEra d) ≤ 365 ∧ (d - startOfYear (yearOfEra d) = 365 →
      isLeap (yearOfEra d + 1) = true) := by
  obtain ⟨hyear, hstart, hnext⟩ := yearOfEra_bounds hd
  generalize yearOfEra d = y at hyear hstart hnext
  unfold startOfYear at *
  -- the last year has no next one, and ends with the era
  have hlast : y = 399 ∨ d < (y + 1) * 365 + (y + 1) / 4 - (y + 1) / 100 := by
    by_cases h : y < 399
    · exact .inr (hnext h)
    · exact .inl (by omega)
  refine ⟨by omega, fun hlong => ?_⟩
  have hfour : (y + 1) % 4 = 0 := by
    by_cases h : (y + 1) % 4 = 0
    · exact h
    · -- no leap day comes between the two first days
      have hquad : (y + 1) / 4 = y / 4 := by omega
      have hcentury : (y + 1) / 100 = y / 100 := by omega
      rw [hquad, hcentury] at hlast
      omega
  have hcentury : (y + 1) % 100 ≠ 0 ∨ (y + 1) % 400 = 0 := by
    by_cases h : (y + 1) % 100 = 0
    -- at the end of a century a leap day is left out, unless the era ends as well
    · obtain ⟨m, hm⟩ : ∃ m, y = 100 * m + 99 := ⟨y / 100, by omega⟩
      omega
    · exact .inl h
  have hleap : ((y : Int) + 1) % 4 = 0 ∧
      (((y : Int) + 1) % 100 ≠ 0 ∨ ((y : Int) + 1) % 400 = 0) := by
    omega
  simpa [isLeap] using hleap

/-! ## The days of a year that begins in March -/

/-- The date of a day of the year that begins in March of the given one. -/
def Date.ofMarch (year : Int) (dayOfYear : Int) : Date :=
  let fromMarch := (5 * dayOfYear + 2) / 153
  let day := dayOfYear - (153 * fromMarch + 2) / 5 + 1
  let month := if fromMarch < 10 then fromMarch + 3 else fromMarch - 9
  ⟨year + (if month ≤ 2 then 1 else 0), month.toNat, day.toNat⟩

theorem isLeap_add_era (y era : Int) : isLeap (y + era * 400) = isLeap y := by
  have h4 : (y + era * 400) % 4 = y % 4 := by omega
  have h100 : (y + era * 400) % 100 = y % 100 := by omega
  have h400 : (y + era * 400) % 400 = y % 400 := by omega
  unfold isLeap
  rw [h4, h100, h400]

/-- The months from March on: the month, the year that it is in, and the day. -/
theorem Date.ofMarch_cases (year : Int) {k : Nat} (hk : k ≤ 365) :
    ∃ m day : Nat, m ≤ 11 ∧ day + (153 * m + 2) / 5 = k + 1 ∧ 1 ≤ day ∧
      day ≤ (153 * (m + 1) + 2) / 5 - (153 * m + 2) / 5 ∧
      (m < 10 ∧ Date.ofMarch year k = ⟨year, m + 3, day⟩ ∨
        10 ≤ m ∧ Date.ofMarch year k = ⟨year + 1, m - 9, day⟩) := by
  obtain ⟨m, hm⟩ : ∃ m : Nat, m = (5 * k + 2) / 153 := ⟨_, rfl⟩
  obtain ⟨s, hs⟩ : ∃ s : Nat, s = (153 * m + 2) / 5 := ⟨_, rfl⟩
  have hmonth : (5 * (k : Int) + 2) / 153 = m := by omega
  have hstart : (153 * (m : Int) + 2) / 5 = s := by omega
  have hday : ((k : Int) - s + 1).toNat = k + 1 - s := by omega
  refine ⟨m, k + 1 - s, by omega, by omega, by omega, by omega, ?_⟩
  unfold Date.ofMarch
  simp only [hmonth, hstart, hday]
  by_cases hlow : m < 10
  · have hlow' : (m : Int) < 10 := by omega
    have hyear : ¬ (m : Int) + 3 ≤ 2 := by omega
    refine .inl ⟨hlow, ?_⟩
    simp only [if_pos hlow', if_neg hyear, Int.add_zero]
    rfl
  · have hhigh : ¬ (m : Int) < 10 := by omega
    have hyear : (m : Int) - 9 ≤ 2 := by omega
    have hnat : ((m : Int) - 9).toNat = m - 9 := by omega
    refine .inr ⟨Nat.le_of_not_lt hlow, ?_⟩
    simp only [if_neg hhigh, if_pos hyear, hnat]

/-- The date of a day exists, also of the last day of a leap year. -/
theorem Date.isValid_ofMarch {year : Int} {k : Nat} (hk : k ≤ 365)
    (hleap : k = 365 → isLeap (year + 1) = true) : (Date.ofMarch year k).isValid = true := by
  obtain ⟨m, day, hm, hk', hday, hlong, hcases⟩ := Date.ofMarch_cases year hk
  rcases hcases with ⟨hlow, heq⟩ | ⟨hhigh, heq⟩
  · have hlength : day ≤ daysInMonth year (m + 3) := by
      have hmonths : m = 0 ∨ m = 1 ∨ m = 2 ∨ m = 3 ∨ m = 4 ∨ m = 5 ∨ m = 6 ∨ m = 7 ∨ m = 8 ∨
        m = 9 := by omega
      rcases hmonths with rfl | rfl | rfl | rfl | rfl | rfl | rfl | rfl | rfl | rfl <;> exact hlong
    rw [heq]
    simp [Date.isValid, hday, hlength]
    omega
  · have hlength : day ≤ daysInMonth (year + 1) (m - 9) := by
      have hmonths : m = 10 ∨ m = 11 := by omega
      rcases hmonths with rfl | rfl
      · exact hlong
      · by_cases h : k = 365
        · simp only [daysInMonth, hleap h]
          show day ≤ 29
          omega
        · refine Nat.le_trans (m := 28) (by omega) ?_
          unfold daysInMonth
          cases isLeap (year + 1) <;> decide
    rw [heq]
    simp [Date.isValid, hday, hlength]
    omega

/-- The number of the date of a day. -/
theorem Date.dayNumber_ofMarch {y k : Nat} (hy : y < 400) (hk : k ≤ 365) (era : Int) :
    (Date.ofMarch (y + era * 400) k).dayNumber =
      era * 146097 + (startOfYear y + k) - 719468 := by
  have hera : (y + era * 400).fdiv 400 = era := by
    rw [Int.fdiv_eq_ediv_of_nonneg _ (by decide)]
    omega
  obtain ⟨m, day, hm, hk', hday, hlong, hcases⟩ := Date.ofMarch_cases (y + era * 400) hk
  unfold startOfYear
  rcases hcases with ⟨hlow, heq⟩ | ⟨hhigh, heq⟩
  · rw [heq]
    have hjan : ¬ m + 3 ≤ 2 := by omega
    have hmar : m + 3 > 2 := by omega
    simp only [Date.dayNumber, if_neg hjan, if_pos hmar, hera]
    omega
  · rw [heq]
    have hjan : m - 9 ≤ 2 := by omega
    have hmar : ¬ m - 9 > 2 := by omega
    simp only [Date.dayNumber, if_pos hjan, if_neg hmar, Int.add_sub_cancel, hera]
    omega

/-! ## All day numbers -/

/-- The era of a day number, the year of the era, and the day of that year. -/
theorem Date.exists_ofMarch (n : Int) : ∃ (era : Int) (y k : Nat), y < 400 ∧ k ≤ 365 ∧
    (k = 365 → isLeap (y + 1) = true) ∧ n = era * 146097 + (startOfYear y + k) - 719468 ∧
      Date.ofDayNumber n = Date.ofMarch (y + era * 400) k := by
  have hera : (n + 719468).fdiv 146097 = (n + 719468) / 146097 :=
    Int.fdiv_eq_ediv_of_nonneg _ (by decide)
  obtain ⟨d, hd⟩ : ∃ d : Nat, (d : Int) = n + 719468 - (n + 719468) / 146097 * 146097 :=
    ⟨(n + 719468 - (n + 719468) / 146097 * 146097).toNat, by omega⟩
  have hlt : d < 146097 := by omega
  obtain ⟨hyear, hstart, -⟩ := yearOfEra_bounds hlt
  obtain ⟨hlong, hleap⟩ := dayOfYear_bounds hlt
  refine ⟨(n + 719468) / 146097, yearOfEra d, d - startOfYear (yearOfEra d), hyear, hlong, hleap,
    by omega, ?_⟩
  have hyearOf : ((d : Int) - d / 1460 + d / 36524 - d / 146096) / 365 = (yearOfEra d : Int) := by
    unfold yearOfEra
    omega
  have hdayOf : (d : Int) - (365 * (yearOfEra d : Int) + (yearOfEra d : Int) / 4 -
      (yearOfEra d : Int) / 100) = ((d - startOfYear (yearOfEra d) : Nat) : Int) := by
    unfold startOfYear at hstart ⊢
    omega
  unfold Date.ofDayNumber
  simp only [hera, ← hd, hyearOf, hdayOf]
  rfl

/-- The date of a day number exists. -/
theorem Date.isValid_ofDayNumber (n : Int) : (Date.ofDayNumber n).isValid = true := by
  obtain ⟨era, y, k, -, hk, hleap, -, heq⟩ := Date.exists_ofMarch n
  rw [heq]
  refine Date.isValid_ofMarch hk fun hlast => ?_
  rw [← hleap hlast, ← isLeap_add_era (y + 1) era]
  congr 1
  omega

/-- The date of a day number has this number. -/
theorem Date.dayNumber_ofDayNumber (n : Int) : (Date.ofDayNumber n).dayNumber = n := by
  obtain ⟨era, y, k, hy, hk, -, hn, heq⟩ := Date.exists_ofMarch n
  rw [heq, Date.dayNumber_ofMarch hy hk, hn]

end ClusterFeed.Time
