import ClusterFeed.Json.Token

/-!
# Decimal digits

The digits of a natural number in the decimal system, with or without zeros before them, and the
number that digits write.
-/

namespace ClusterFeed

/-- One digit at least, and nothing else. -/
def Digits (ds : List Char) : Prop :=
  ds ≠ [] ∧ ∀ d ∈ ds, d.isDigit = true

namespace Digits

variable {ds cs : List Char}

theorem toDigits (n : Nat) : Digits (Nat.toDigits 10 n) :=
  ⟨Nat.toDigits_ne_nil, fun _ hd => Nat.isDigit_of_mem_toDigits (by decide) (by decide) hd⟩

/-- A run of digits ends where no digit follows. -/
theorem takeWhile_append (h : Digits ds) (hcs : ∀ c ∈ cs.head?, c.isDigit = false) :
    (ds ++ cs).takeWhile Char.isDigit = ds := by
  rw [List.takeWhile_append_of_pos h.2]
  cases cs with
  | nil => simp
  | cons c cs => simp [hcs c rfl]

theorem dropWhile_append (h : Digits ds) (hcs : ∀ c ∈ cs.head?, c.isDigit = false) :
    (ds ++ cs).dropWhile Char.isDigit = cs := by
  rw [List.dropWhile_append_of_pos h.2]
  cases cs with
  | nil => rfl
  | cons c cs => simp [hcs c rfl]

/-- The first digit, and the further ones. -/
theorem exists_cons (h : Digits ds) : ∃ d ds', ds = d :: ds' ∧ d.isDigit = true := by
  obtain ⟨d, ds', rfl⟩ := List.exists_cons_of_ne_nil h.1
  exact ⟨d, ds', rfl, h.2 d List.mem_cons_self⟩

end Digits

namespace Json

theorem natOfDigits_eq (ds : List Char) : natOfDigits ds = Nat.ofDigitChars 10 ds 0 := by
  rw [Nat.ofDigitChars_eq_foldl]
  unfold natOfDigits
  congr 1
  funext n d
  rw [Nat.mul_comm]
  rfl

@[simp] theorem natOfDigits_toDigits (n : Nat) : natOfDigits (Nat.toDigits 10 n) = n := by
  rw [natOfDigits_eq, Nat.ofDigitChars_ten_toDigits]

/-- Zeros in front do not count. -/
theorem natOfDigits_zeros (k n : Nat) :
    natOfDigits (List.replicate k '0' ++ Nat.toDigits 10 n) = n := by
  rw [natOfDigits_eq, Nat.ofDigitChars_append, Nat.ofDigitChars_replicate_zero, Nat.mul_zero,
    Nat.ofDigitChars_ten_toDigits]

end Json

/-- No superfluous zero comes first. -/
theorem Digits.toDigits_head (n : Nat) :
    (Nat.toDigits 10 n).head? = some '0' → (Nat.toDigits 10 n).length = 1 := by
  induction n using Nat.strongRecOn with
  | ind n ih =>
    by_cases hn : n < 10
    · rw [Nat.toDigits_of_lt_base hn]
      exact fun _ => rfl
    · rw [Nat.toDigits_of_base_le (by decide) (Nat.le_of_not_lt hn)]
      obtain ⟨d, ds, hds, -⟩ := (Digits.toDigits (n / 10)).exists_cons
      intro h
      -- the digits of `n / 10` would be those of zero
      have hhead : (Nat.toDigits 10 (n / 10)).head? = some '0' := by
        rw [hds] at h ⊢
        exact h
      have hlt : n / 10 < 10 :=
        (Nat.length_toDigits_le_iff (k := 1) (by decide) (by decide)).mp
          (Nat.le_of_eq (ih (n / 10) (by omega) hhead))
      rw [Nat.toDigits_of_lt_base hlt] at hhead
      have hzero : ∀ d < 10, 0 < d → ¬ [Nat.digitChar d].head? = some '0' := by decide
      exact absurd hhead (hzero _ hlt (by omega))

end ClusterFeed
