import ClusterFeed.Text.Utf8

/-!
# Cutting a text

A text that takes more octets than there is room for is cut at the last place that lies between two
characters. The search for this place goes down from the last octet for which there is room. It
always finds one, at most three octets further down, and what is kept is the longest start of the
text that fits.

It is what `attempt` does with the body that goes into an error.
-/

namespace ClusterFeed.Text

variable {s : String} {n budget : Nat}

/-! ## The place -/

theorem lastPlace?_of_isValid (h : (⟨n⟩ : String.Pos.Raw).IsValid s) :
    lastPlace? s n = some ⟨⟨n⟩, h⟩ := by
  cases n with
  | zero => rw [lastPlace?, dif_pos h]
  | succ n => rw [lastPlace?, dif_pos h]

theorem lastPlace?_succ_of_not_isValid (h : ¬ (⟨n + 1⟩ : String.Pos.Raw).IsValid s) :
    lastPlace? s (n + 1) = lastPlace? s n := by
  rw [lastPlace?, dif_neg h]

/-- The search finds the last place up to where it begins. -/
theorem exists_lastPlace? (s : String) (n : Nat) :
    ∃ p, lastPlace? s n = some p ∧ p.offset.byteIdx ≤ n ∧
      ∀ q : s.Pos, q.offset.byteIdx ≤ n → q.offset.byteIdx ≤ p.offset.byteIdx := by
  induction n with
  | zero => exact ⟨_, lastPlace?_of_isValid String.Pos.Raw.isValid_zero, Nat.le_refl 0, fun _ => id⟩
  | succ n ih =>
    by_cases h : (⟨n + 1⟩ : String.Pos.Raw).IsValid s
    · exact ⟨_, lastPlace?_of_isValid h, Nat.le_refl _, fun _ => id⟩
    · obtain ⟨p, hp, hle, hlast⟩ := ih
      refine ⟨p, (lastPlace?_succ_of_not_isValid h).trans hp, Nat.le_succ_of_le hle, fun q hq => ?_⟩
      have hne : q.offset.byteIdx ≠ n + 1 := by
        intro heq
        have hraw : q.offset = ⟨n + 1⟩ := String.Pos.Raw.ext heq
        exact h (hraw ▸ q.isValid)
      exact hlast q (by omega)

/-- Behind a place that is not the end there is another one, at most four octets further on. -/
theorem exists_next (p : s.Pos) (h : p ≠ s.endPos) :
    ∃ q : s.Pos, p.offset.byteIdx < q.offset.byteIdx ∧ q.offset.byteIdx ≤ p.offset.byteIdx + 4 := by
  refine ⟨p.next h, ?_⟩
  have hsize := (p.splits_next h).offset_eq_rawEndPos
  have hplace := p.splits.offset_eq_rawEndPos
  have hpos := (p.get h).utf8Size_pos
  have hfour := (p.get h).utf8Size_le_four
  rw [hsize, hplace]
  simp only [String.byteIdx_rawEndPos, String.utf8ByteSize_append, String.utf8ByteSize_singleton]
  omega

/-- The search goes down by three octets at most. -/
theorem lastPlace?_near {p : s.Pos} (h : lastPlace? s n = some p) (hn : n ≤ s.utf8ByteSize) :
    n ≤ p.offset.byteIdx + 3 := by
  obtain ⟨p', hp', hle, hlast⟩ := exists_lastPlace? s n
  cases h.symm.trans hp'
  by_cases hend : p = s.endPos
  · have hsize : p.offset.byteIdx = s.utf8ByteSize := by rw [hend]; rfl
    omega
  · obtain ⟨q, hbehind, hnear⟩ := exists_next p hend
    -- the next place is beyond the one at which the search began
    have hbeyond : n < q.offset.byteIdx := Nat.lt_of_not_le fun hq => by
      have := hlast q hq
      omega
    omega

/-! ## The text that is kept -/

/-- A text is the longest start of another one that takes at most `budget` octets. -/
structure IsLongestStart (budget : Nat) (s cut : String) : Prop where
  /-- The other text begins with it. -/
  isStart : ∃ rest, cut ++ rest = s
  /-- There is room for it. -/
  fits : cut.utf8ByteSize ≤ budget
  /-- Whatever else the other text begins with and there is room for, it begins with as well. -/
  longest : ∀ start rest, start ++ rest = s → start.utf8ByteSize ≤ budget →
    ∃ more, start ++ more = cut

/-- Of two starts of a text the one that takes more octets begins with the other. -/
theorem exists_more {a b rest rest' : String} (h : a ++ rest = b ++ rest')
    (hle : a.utf8ByteSize ≤ b.utf8ByteSize) : ∃ more, a ++ more = b := by
  have hlists : a.toList ++ rest.toList = b.toList ++ rest'.toList := by
    rw [← String.toList_append, h, String.toList_append]
  rcases List.append_eq_append_iff.mp hlists with ⟨more, hb, -⟩ | ⟨more, ha, -⟩
  · exact ⟨String.ofList more, String.toList_injective (by simp [hb])⟩
  · have heq : a = b ++ String.ofList more := String.toList_injective (by simp [ha])
    have hsize := congrArg String.utf8ByteSize heq
    rw [String.utf8ByteSize_append] at hsize
    have hnone : String.ofList more = "" := String.utf8ByteSize_eq_zero_iff.mp (by omega)
    rw [hnone, String.append_empty] at heq
    exact ⟨"", by rw [heq, String.append_empty]⟩

namespace IsLongestStart

variable {cut cut' : String}

/-- There is only one. -/
theorem unique (h : IsLongestStart budget s cut) (h' : IsLongestStart budget s cut') :
    cut = cut' := by
  obtain ⟨rest, hrest⟩ := h.isStart
  obtain ⟨rest', hrest'⟩ := h'.isStart
  obtain ⟨more, hmore⟩ := h'.longest cut rest hrest h.fits
  obtain ⟨more', hmore'⟩ := h.longest cut' rest' hrest' h'.fits
  have hsize := congrArg String.utf8ByteSize hmore
  have hsize' := congrArg String.utf8ByteSize hmore'
  rw [String.utf8ByteSize_append] at hsize hsize'
  have hnone : more = "" := String.utf8ByteSize_eq_zero_iff.mp (by omega)
  rw [hnone, String.append_empty] at hmore
  exact hmore

/-- A text for which there is room is not cut. -/
theorem self (h : s.utf8ByteSize ≤ budget) : IsLongestStart budget s s :=
  ⟨⟨"", String.append_empty⟩, h, fun _ rest hrest _ => ⟨rest, hrest⟩⟩

/-- What lies before the last place for which there is room is the longest start. -/
theorem of_lastPlace? {p : s.Pos} (h : lastPlace? s budget = some p) :
    IsLongestStart budget s (s.sliceTo p).copy := by
  obtain ⟨p', hp', hle, hlast⟩ := exists_lastPlace? s budget
  cases h.symm.trans hp'
  have hsplits := p.splits
  have hsize : p.offset.byteIdx = (s.sliceTo p).copy.utf8ByteSize := by
    rw [hsplits.offset_eq_rawEndPos]
    rfl
  refine ⟨⟨_, hsplits.eq_append.symm⟩, hsize ▸ hle, fun start rest hstart hfits => ?_⟩
  have hvalid : start.rawEndPos.IsValid s :=
    String.Pos.Raw.isValid_iff_exists_append.mpr ⟨start, rest, hstart.symm, rfl⟩
  have hbefore : start.utf8ByteSize ≤ p.offset.byteIdx := hlast ⟨_, hvalid⟩ hfits
  exact exists_more (hstart.trans hsplits.eq_append) (hsize ▸ hbefore)

end IsLongestStart

theorem isLongestStart_truncate (budget : Nat) (s : String) :
    IsLongestStart budget s (truncate budget s) := by
  unfold truncate
  split
  · rename_i hfits
    exact .self hfits
  · obtain ⟨p, hp, -⟩ := exists_lastPlace? s budget
    rw [hp]
    exact .of_lastPlace? hp

end ClusterFeed.Text
