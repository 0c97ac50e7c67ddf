import ClusterFeed.Text.Blank
import Mathlib.Data.List.DropRight

/-!
# Trimming a text

Trimming takes the blanks off both ends of a text and leaves all else as it is, also blanks between
other characters. There is one text only that is left so, and also one only that is left when a
character is taken off the end as often as it stands there.
-/

namespace ClusterFeed.Text

/-- What is left of a text without the blanks at both ends. -/
structure Trims (s t : String) : Prop where
  /-- Nothing but blanks is taken off. -/
  around : ∃ before after, s.toList = before ++ t.toList ++ after ∧
    (∀ c ∈ before, isBlank c = true) ∧ ∀ c ∈ after, isBlank c = true
  /-- No blank is left at the start. -/
  first : ∀ c ∈ t.toList.head?, isBlank c = false
  /-- No blank is left at the end. -/
  last : ∀ c ∈ t.toList.getLast?, isBlank c = false

variable {p : Char → Bool} {before after cs : List Char}

theorem dropWhile_append_of_forall (hbefore : ∀ c ∈ before, p c = true)
    (hfirst : ∀ c ∈ cs.head?, p c = false) : (before ++ cs).dropWhile p = cs := by
  rw [List.dropWhile_append_of_pos hbefore]
  cases cs with
  | nil => rfl
  | cons c cs =>
    have hc : p c = false := hfirst c rfl
    exact List.dropWhile_cons_of_neg (by simp [hc])

theorem dropEnd_append_of_forall (hafter : ∀ c ∈ after, p c = true)
    (hlast : ∀ c ∈ cs.getLast?, p c = false) : dropEnd p (cs ++ after) = cs := by
  have hreverse : (after.reverse ++ cs.reverse).dropWhile p = cs.reverse := by
    refine dropWhile_append_of_forall (fun c hc => hafter c (List.mem_reverse.mp hc)) ?_
    rwa [List.head?_reverse]
  rw [dropEnd, List.reverse_append, hreverse, List.reverse_reverse]

theorem head?_dropWhile (p : Char → Bool) (cs : List Char) :
    ∀ c ∈ (cs.dropWhile p).head?, p c = false := by
  intro c hc
  have hnot := List.head?_dropWhile_not p cs
  rw [Option.mem_def.mp hc] at hnot
  simpa using hnot

theorem getLast?_dropEnd (p : Char → Bool) (cs : List Char) :
    ∀ c ∈ (dropEnd p cs).getLast?, p c = false := by
  rw [dropEnd, List.getLast?_reverse]
  exact head?_dropWhile p cs.reverse

theorem exists_dropEnd (p : Char → Bool) (cs : List Char) :
    ∃ after, cs = dropEnd p cs ++ after ∧ ∀ c ∈ after, p c = true :=
  ⟨cs.rtakeWhile p, List.rdropWhile_append_rtakeWhile.symm, fun _ => List.mem_rtakeWhile_imp⟩

theorem trims_trim (s : String) : Trims s (trim s) := by
  obtain ⟨after, hrest, hafter⟩ := exists_dropEnd isBlank (s.toList.dropWhile isBlank)
  have htrim : (trim s).toList = dropEnd isBlank (s.toList.dropWhile isBlank) :=
    String.toList_ofList
  refine ⟨⟨s.toList.takeWhile isBlank, after, ?_, ?_, hafter⟩, fun c hc => ?_, ?_⟩
  · rw [htrim, List.append_assoc, ← hrest, List.takeWhile_append_dropWhile]
  · exact fun c hc => List.mem_takeWhile_imp hc
  · refine head?_dropWhile isBlank s.toList c ?_
    rw [htrim] at hc
    rw [hrest, List.head?_append, Option.mem_def.mp hc]
    rfl
  · rw [htrim]
    exact getLast?_dropEnd isBlank (s.toList.dropWhile isBlank)

/-- Trimming leaves just what is left without the blanks at both ends. -/
theorem trims_iff {s t : String} : Trims s t ↔ trim s = t := by
  refine ⟨fun h => ?_, fun h => h ▸ trims_trim s⟩
  obtain ⟨before, after, hs, hbefore, hafter⟩ := h.around
  rw [trim, trimChars, hs]
  cases ht : t.toList with
  | nil =>
    have hblank : (before ++ [] ++ after).dropWhile isBlank = [] := by
      refine List.dropWhile_eq_nil_iff.mpr fun c hc => ?_
      rw [List.append_nil] at hc
      exact (List.mem_append.mp hc).elim (hbefore c) (hafter c)
    rw [hblank]
    exact String.toList_injective (String.toList_ofList.trans ht.symm)
  | cons c cs =>
    have hfirst : ∀ c' ∈ (c :: cs ++ after).head?, isBlank c' = false := by
      intro c' hc'
      exact h.first c' (by rw [ht]; exact hc')
    have hlast : ∀ c' ∈ (c :: cs).getLast?, isBlank c' = false := ht ▸ h.last
    rw [List.append_assoc, dropWhile_append_of_forall hbefore hfirst,
      dropEnd_append_of_forall hafter hlast, ← ht, String.ofList_toList]

theorem Trims.self {s : String} (hfirst : ∀ c ∈ s.toList.head?, isBlank c = false)
    (hlast : ∀ c ∈ s.toList.getLast?, isBlank c = false) : Trims s s :=
  ⟨⟨[], [], by simp, by simp, by simp⟩, hfirst, hlast⟩

/-- Off a text that does not end in a blank, blanks are taken at the start only. -/
theorem Trims.exists_before {s t : String} (h : Trims s t)
    (hs : ∀ c ∈ s.toList.getLast?, isBlank c = false) :
    ∃ before, s.toList = before ++ t.toList ∧ ∀ c ∈ before, isBlank c = true := by
  obtain ⟨before, after, heq, hbefore, hafter⟩ := h.around
  rcases List.eq_nil_or_concat after with rfl | ⟨rest, c, rfl⟩
  · exact ⟨before, by rw [heq, List.append_nil], hbefore⟩
  · have hlast : c ∈ s.toList.getLast? := by
      rw [heq, List.concat_eq_append, ← List.append_assoc, List.getLast?_concat]
      rfl
    have hblank : isBlank c = true := hafter c (by simp)
    rw [hs c hlast] at hblank
    cases hblank

/-! ## One character taken off the end -/

/-- What is left of a text without the characters `c` at its end. -/
structure Strips (c : Char) (s t : String) : Prop where
  /-- Nothing but `c` is taken off. -/
  behind : ∃ n, s = t ++ String.ofList (List.replicate n c)
  /-- No `c` is left at the end. -/
  last : t.toList.getLast? ≠ some c

variable {c : Char} {s t : String}

theorem Strips.self (h : s.toList.getLast? ≠ some c) : Strips c s s :=
  ⟨⟨0, by simp⟩, h⟩

theorem Strips.append (h : Strips c s t) (n : Nat) :
    Strips c (s ++ String.ofList (List.replicate n c)) t := by
  obtain ⟨m, rfl⟩ := h.behind
  refine ⟨⟨m + n, ?_⟩, h.last⟩
  rw [String.append_assoc, ← String.ofList_append, List.replicate_append_replicate]

/-- Blanks around a text that does not end in one, and other characters behind it, leave what is
left of it as it is, but for these characters. -/
theorem Trims.padded {before after : String} {n : Nat} (h : Trims s t) (hc : isBlank c = false)
    (hs : ∀ d ∈ s.toList.getLast?, isBlank d = false)
    (hbefore : ∀ d ∈ before.toList, isBlank d = true)
    (hafter : ∀ d ∈ after.toList, isBlank d = true) :
    Trims (before ++ s ++ String.ofList (List.replicate n c) ++ after)
      (t ++ String.ofList (List.replicate n c)) := by
  obtain ⟨start, hstart, hblank⟩ := h.exists_before hs
  refine ⟨⟨before.toList ++ start, after.toList, ?_, ?_, hafter⟩, fun d hd => ?_, fun d hd => ?_⟩
  · simp only [String.toList_append, hstart, List.append_assoc]
  · intro d hd
    exact (List.mem_append.mp hd).elim (hbefore d) (hblank d)
  · rw [String.toList_append, String.toList_ofList, List.head?_append, Option.mem_def,
      Option.or_eq_some_iff] at hd
    rcases hd with hfirst | ⟨-, hfirst⟩
    · exact h.first d hfirst
    · rw [List.eq_of_mem_replicate (List.mem_of_head? hfirst), hc]
  · rw [String.toList_append, String.toList_ofList, List.getLast?_append, Option.mem_def,
      Option.or_eq_some_iff] at hd
    rcases hd with hlast | ⟨-, hlast⟩
    · rw [List.eq_of_mem_replicate (List.mem_of_getLast? hlast), hc]
    · exact h.last d hlast

theorem strips_dropEnd (c : Char) (s : String) :
    Strips c s (String.ofList (dropEnd (· == c) s.toList)) := by
  obtain ⟨after, hs, hafter⟩ := exists_dropEnd (· == c) s.toList
  have hsame : after = List.replicate after.length c :=
    List.eq_replicate_length.mpr fun d hd => eq_of_beq (hafter d hd)
  refine ⟨⟨after.length, ?_⟩, fun hlast => ?_⟩
  · rw [← hsame, ← String.ofList_append, ← hs, String.ofList_toList]
  · rw [String.toList_ofList] at hlast
    have hne : (c == c) = false := getLast?_dropEnd (· == c) s.toList c hlast
    simp at hne

/-- What is left without the characters `c` at the end is what their removal leaves. -/
theorem strips_iff : Strips c s t ↔ String.ofList (dropEnd (· == c) s.toList) = t := by
  refine ⟨fun h => ?_, fun h => h ▸ strips_dropEnd c s⟩
  obtain ⟨n, rfl⟩ := h.behind
  have hsame : ∀ d ∈ List.replicate n c, (d == c) = true := fun d hd =>
    beq_iff_eq.mpr (List.eq_of_mem_replicate hd)
  have hlast : ∀ d ∈ t.toList.getLast?, (d == c) = false := by
    intro d hd
    refine beq_eq_false_iff_ne.mpr fun hdc => h.last ?_
    rw [← hdc]
    exact hd
  rw [String.toList_append, String.toList_ofList, dropEnd_append_of_forall hsame hlast,
    String.ofList_toList]

end ClusterFeed.Text
