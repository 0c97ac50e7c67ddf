import ClusterFeed.Text.Utf8
import Mathlib.Data.Fintype.Basic
import Mathlib.Tactic.FinCases

/-!
# Reading what was written

The octets of a text are read as its characters, one unit each, and none of them is unreadable.
-/

namespace ClusterFeed.Text

/-! ## First octets -/

theorem lead?_two (n : Fin 32) (h : 2 ≤ n.val) :
    lead? (.ofNat (n + 0xC0)) = some ⟨1, 0x80, 0xBF, n⟩ := by
  fin_cases n
  all_goals first | rfl | simp at h

theorem lead?_three (n : Fin 16) : lead? (.ofNat (n + 0xE0)) =
    some ⟨2, if n.val = 0 then 0xA0 else 0x80, if n.val = 13 then 0x9F else 0xBF, n⟩ := by
  fin_cases n <;> rfl

theorem lead?_four (n : Fin 5) : lead? (.ofNat (n + 0xF0)) =
    some ⟨3, if n.val = 0 then 0x90 else 0x80, if n.val = 4 then 0x8F else 0xBF, n⟩ := by
  fin_cases n <;> rfl

/-! ## Octet by octet -/

variable {l : Lead} {n left bits : Nat}

theorem toNat_ofNat (h : n < 0x100) : (UInt8.ofNat n).toNat = n :=
  UInt8.toNat_ofNat_of_lt' h

theorem readUnits_plain (h : n < 0x80) (acc : List Unit8) (bs : List UInt8) :
    readUnits .start acc (.ofNat n :: bs) = readUnits .start (some (Char.ofNat n) :: acc) bs := by
  have hnat := toNat_ofNat (n := n) (by omega)
  have hplain : UInt8.ofNat n < 0x80 := UInt8.lt_iff_toNat_lt.mpr (hnat.symm ▸ h)
  rw [readUnits, readUnits.first, if_pos hplain, hnat]

theorem readUnits_lead (h : 0x80 ≤ n) (h' : n < 0x100) (hl : lead? (.ofNat n) = some l)
    (acc : List Unit8) (bs : List UInt8) :
    readUnits .start acc (.ofNat n :: bs) = readUnits (.second l) acc bs := by
  have hnat := toNat_ofNat h'
  have hlead : ¬ UInt8.ofNat n < 0x80 := fun hlt =>
    Nat.not_lt.mpr h (hnat ▸ UInt8.lt_iff_toNat_lt.mp hlt)
  rw [readUnits, readUnits.first, if_neg hlead, hl]

/-- The octet that continues a character by six bits lies between the bounds. -/
theorem between_bounds {low high : UInt8} (h : n < 64) (hlow : low.toNat ≤ n + 0x80)
    (hhigh : n + 0x80 ≤ high.toNat) :
    (decide (low ≤ UInt8.ofNat (n + 0x80)) && decide (UInt8.ofNat (n + 0x80) ≤ high)) = true := by
  have hnat := toNat_ofNat (n := n + 0x80) (by omega)
  rw [Bool.and_eq_true, decide_eq_true_iff, decide_eq_true_iff, UInt8.le_iff_toNat_le,
    UInt8.le_iff_toNat_le, hnat]
  exact ⟨hlow, hhigh⟩

theorem readUnits_second (h : n < 64) (hlow : l.low.toNat ≤ n + 0x80)
    (hhigh : n + 0x80 ≤ l.high.toNat) (hfollow : l.follow = 1) (acc : List Unit8)
    (bs : List UInt8) : readUnits (.second l) acc (.ofNat (n + 0x80) :: bs) =
      readUnits .start (some (Char.ofNat (l.bits * 64 + n)) :: acc) bs := by
  have hnat := toNat_ofNat (n := n + 0x80) (by omega)
  rw [readUnits, if_pos (between_bounds h hlow hhigh), hnat, Nat.add_sub_cancel]
  simp only [hfollow]

theorem readUnits_second_of_more (h : n < 64) (hlow : l.low.toNat ≤ n + 0x80)
    (hhigh : n + 0x80 ≤ l.high.toNat) (hfollow : l.follow = left + 2) (acc : List Unit8)
    (bs : List UInt8) : readUnits (.second l) acc (.ofNat (n + 0x80) :: bs) =
      readUnits (.tail left (l.bits * 64 + n)) acc bs := by
  have hnat := toNat_ofNat (n := n + 0x80) (by omega)
  rw [readUnits, if_pos (between_bounds h hlow hhigh), hnat, Nat.add_sub_cancel]
  simp only [hfollow]

theorem readUnits_tail (h : n < 64) (acc : List Unit8) (bs : List UInt8) :
    readUnits (.tail left bits) acc (.ofNat (n + 0x80) :: bs) =
      match left with
      | 0 => readUnits .start (some (Char.ofNat (bits * 64 + n)) :: acc) bs
      | k + 1 => readUnits (.tail k (bits * 64 + n)) acc bs := by
  have hnat := toNat_ofNat (n := n + 0x80) (by omega)
  have htail : isTail (.ofNat (n + 0x80)) = true :=
    between_bounds h (Nat.le_add_left _ _) (Nat.le_of_lt_succ (Nat.add_lt_add_right h _))
  cases left <;> rw [readUnits, if_pos htail, hnat, Nat.add_sub_cancel]

/-! ## Character by character -/

section Forms

variable {first second third fourth : Nat}

theorem readUnits_two (hfirst : 2 ≤ first) (hfirst' : first < 32) (hsecond : second < 64)
    (acc : List Unit8) (bs : List UInt8) :
    readUnits .start acc (.ofNat (first + 0xC0) :: .ofNat (second + 0x80) :: bs) =
      readUnits .start (some (Char.ofNat (first * 64 + second)) :: acc) bs := by
  have hlead : lead? (.ofNat (first + 0xC0)) = some ⟨1, 0x80, 0xBF, first⟩ :=
    lead?_two ⟨first, hfirst'⟩ hfirst
  have hhigh : second + 0x80 ≤ (0xBF : UInt8).toNat :=
    Nat.le_of_lt_succ (Nat.add_lt_add_right hsecond 0x80)
  rw [readUnits_lead (by omega) (by omega) hlead]
  exact readUnits_second hsecond (Nat.le_add_left _ _) hhigh rfl acc bs

/-- Of three octets the second one keeps out overlong forms and surrogates. -/
theorem readUnits_three (hfirst : first < 16) (hsecond : second < 64) (hthird : third < 64)
    (hlong : first = 0 → 32 ≤ second) (hsurrogate : first = 13 → second < 32)
    (acc : List Unit8) (bs : List UInt8) :
    readUnits .start acc
        (.ofNat (first + 0xE0) :: .ofNat (second + 0x80) :: .ofNat (third + 0x80) :: bs) =
      readUnits .start (some (Char.ofNat ((first * 64 + second) * 64 + third)) :: acc) bs := by
  have hlead := lead?_three ⟨first, hfirst⟩
  have hlow : (if first = 0 then (0xA0 : UInt8) else 0x80).toNat ≤ second + 0x80 := by
    split
    · exact Nat.add_le_add_right (hlong ‹_›) 0x80
    · exact Nat.le_add_left _ _
  have hhigh : second + 0x80 ≤ (if first = 13 then (0x9F : UInt8) else 0xBF).toNat := by
    split
    · exact Nat.le_of_lt_succ (Nat.add_lt_add_right (hsurrogate ‹_›) 0x80)
    · exact Nat.le_of_lt_succ (Nat.add_lt_add_right hsecond 0x80)
  rw [readUnits_lead (by omega) (by omega) hlead,
    readUnits_second_of_more hsecond hlow hhigh rfl]
  exact readUnits_tail hthird acc bs

/-- Of four octets the second one keeps out overlong forms and what is beyond the last character. -/
theorem readUnits_four (hfirst : first < 5) (hsecond : second < 64) (hthird : third < 64)
    (hfourth : fourth < 64) (hlong : first = 0 → 16 ≤ second) (hlast : first = 4 → second < 16)
    (acc : List Unit8) (bs : List UInt8) :
    readUnits .start acc (.ofNat (first + 0xF0) :: .ofNat (second + 0x80) ::
        .ofNat (third + 0x80) :: .ofNat (fourth + 0x80) :: bs) =
      readUnits .start
        (some (Char.ofNat (((first * 64 + second) * 64 + third) * 64 + fourth)) :: acc) bs := by
  have hlead := lead?_four ⟨first, hfirst⟩
  have hlow : (if first = 0 then (0x90 : UInt8) else 0x80).toNat ≤ second + 0x80 := by
    split
    · exact Nat.add_le_add_right (hlong ‹_›) 0x80
    · exact Nat.le_add_left _ _
  have hhigh : second + 0x80 ≤ (if first = 4 then (0x8F : UInt8) else 0xBF).toNat := by
    split
    · exact Nat.le_of_lt_succ (Nat.add_lt_add_right (hlast ‹_›) 0x80)
    · exact Nat.le_of_lt_succ (Nat.add_lt_add_right hsecond 0x80)
  rw [readUnits_lead (by omega) (by omega) hlead,
    readUnits_second_of_more hsecond hlow hhigh rfl, readUnits_tail hthird]
  exact readUnits_tail hfourth acc bs

end Forms

/-- Whichever form a character takes, its octets are read as the character. -/
theorem readUnits_char (c : Char) (acc : List Unit8) (bs : List UInt8) :
    readUnits .start acc (String.utf8EncodeChar c ++ bs) = readUnits .start (some c :: acc) bs := by
  have hvalid : c.val.toNat < 0xD800 ∨ 0xDFFF < c.val.toNat ∧ c.val.toNat < 0x110000 := c.valid
  have hself : Char.ofNat c.val.toNat = c := Char.ofNat_toNat c
  have hsix : ∀ n, n % 0x40 < 64 := fun n => Nat.mod_lt n (by decide)
  unfold String.utf8EncodeChar
  dsimp only
  generalize c.val.toNat = v at hvalid hself ⊢
  by_cases hone : v ≤ 0x7F
  · rw [if_pos hone, List.singleton_append, readUnits_plain (Nat.lt_succ_of_le hone), hself]
  rw [if_neg hone]
  by_cases htwo : v ≤ 0x7FF
  · have hbits : v / 64 % 0x20 * 64 + v % 0x40 = v := by omega
    rw [if_pos htwo]
    simp only [List.cons_append, List.nil_append]
    rw [readUnits_two (by omega) (by omega) (hsix v), hbits, hself]
  rw [if_neg htwo]
  by_cases hthree : v ≤ 0xFFFF
  · have hbits : (v / 4096 % 0x10 * 64 + v / 64 % 0x40) * 64 + v % 0x40 = v := by omega
    rw [if_pos hthree]
    simp only [List.cons_append, List.nil_append]
    rw [readUnits_three (by omega) (hsix _) (hsix v) (by omega) (by omega), hbits, hself]
  · have hbits : ((v / 262144 % 0x08 * 64 + v / 4096 % 0x40) * 64 + v / 64 % 0x40) * 64 +
        v % 0x40 = v := by omega
    rw [if_neg hthree]
    simp only [List.cons_append, List.nil_append]
    rw [readUnits_four (by omega) (hsix _) (hsix _) (hsix v) (by omega) (by omega), hbits, hself]

theorem readUnits_chars (cs : List Char) (acc : List Unit8) :
    readUnits .start acc (cs.flatMap String.utf8EncodeChar) = acc.reverse ++ cs.map some := by
  induction cs generalizing acc with
  | nil => rw [List.flatMap_nil, readUnits, List.map_nil, List.append_nil]
  | cons c cs ih =>
    rw [List.flatMap_cons, readUnits_char, ih, List.reverse_cons, List.append_assoc]
    rfl

/-! ## The octets of a text -/

theorem toList_loop (b : ByteArray) (i : Nat) (acc : List UInt8) :
    ByteArray.toList.loop b i acc = acc.reverse ++ b.data.toList.drop i := by
  fun_induction ByteArray.toList.loop b i acc with
  | case1 i acc h ih =>
    have hi : i < b.data.toList.length := by simpa using h
    rw [ih, List.drop_eq_getElem_cons hi, List.reverse_cons, List.append_assoc]
    simp [ByteArray.get!, h]
  | case2 i acc h =>
    have hend : b.data.toList.length ≤ i := by simpa using Nat.le_of_not_lt h
    rw [List.drop_eq_nil_of_le hend, List.append_nil]

theorem octets_eq (s : String) : octets s = s.toList.flatMap String.utf8EncodeChar := by
  have hchars : s.toUTF8 = (s.toList.flatMap String.utf8EncodeChar).toByteArray := by
    conv => lhs; rw [← String.ofList_toList (s := s)]
    exact String.toByteArray_ofList
  rw [octets, hchars, ByteArray.toList, toList_loop, List.toList_data_toByteArray]
  rfl

/-- The units of what was written are the characters of the text. -/
theorem units_octets (s : String) : units (octets s) = unitsOf s := by
  rw [units, octets_eq, readUnits_chars]
  rfl

theorem decodeLenient_octets (s : String) : decodeLenient (octets s) = s := by
  have hsome : ((fun u : Unit8 => u.getD '\uFFFD') ∘ some) = id := rfl
  rw [decodeLenient, units_octets, lenient, unitsOf, List.map_map, hsome, List.map_id,
    String.ofList_toList]

end ClusterFeed.Text
