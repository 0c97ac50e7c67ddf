import ClusterFeed.Proofs.Buffer.Waiting
import Mathlib.Data.List.Induction

/-!
# What a sequence of changes leaves

Of all changes of one id that come in one after the other, what waits in the end is the last delete
when there is one. Otherwise it is the last upsert, unless a delete waited before.

The rules are those of `merge`.
-/

namespace ClusterFeed

namespace Change

/-- The changes of an id in a sequence. A change without id does not come in. -/
def withId (id : String) (cs : List Change) : List Change :=
  cs.filter fun c => c.id = id ∧ id ≠ ""

/-- What waits under an id after changes of that id have come in. -/
def settle (old : Option Change) (cs : List Change) : Option Change :=
  cs.foldl (fun waiting c => some (c.onto waiting)) old

variable {cs : List Change} {old : Option Change} {d : Change}

theorem onto_of_isDelete (h : d.isDelete) (old : Option Change) : d.onto old = d := by
  have hu : d.isUpsert = false := by
    have := d.isDelete_eq_not_isUpsert
    rw [h] at this
    simpa using this.symm
  unfold onto isLostOn
  cases old with
  | none => rfl
  | some c => simp [hu]

theorem onto_isDelete {c : Change} (hd : d.isDelete) (hc : c.isUpsert) :
    c.onto (some d) = d := by
  unfold onto isLostOn
  simp [hd, hc]

theorem onto_of_not_isDelete (c : Change) (h : ∀ d, old = some d → ¬ d.isDelete) :
    c.onto old = c := by
  unfold onto isLostOn
  cases old with
  | none => rfl
  | some d => simp [h d rfl]

theorem settle_concat (old : Option Change) (cs : List Change) (c : Change) :
    settle old (cs ++ [c]) = some (c.onto (settle old cs)) := by
  unfold settle
  rw [List.foldl_append]
  rfl

/-- Upserts behind a delete are lost. -/
theorem settle_behind_delete (hd : d.isDelete) (h : ∀ c ∈ cs, c.isUpsert) :
    settle (some d) cs = some d := by
  induction cs using List.reverseRecOn with
  | nil => rfl
  | append_singleton cs c ih =>
    rw [settle_concat, ih fun a ha => h a (List.mem_append_left _ ha),
      onto_isDelete hd (h c (by simp))]

/-- Of upserts with no delete before them the last one stays. -/
theorem settle_upserts (hold : ∀ d, old = some d → ¬ d.isDelete) (h : ∀ c ∈ cs, c.isUpsert) :
    settle old cs = cs.getLast?.or old := by
  induction cs using List.reverseRecOn with
  | nil => rfl
  | append_singleton cs c ih =>
    have hcs : ∀ a ∈ cs, a.isUpsert := fun a ha => h a (List.mem_append_left _ ha)
    have hbefore : ∀ d, settle old cs = some d → ¬ d.isDelete := by
      intro d hd
      rw [ih hcs] at hd
      cases hl : cs.getLast? with
      | none =>
        rw [hl, Option.none_or] at hd
        exact hold d hd
      | some a =>
        rw [hl, Option.some_or] at hd
        cases hd
        rw [isDelete_eq_not_isUpsert, hcs d (List.mem_of_getLast? hl)]
        simp
    rw [settle_concat, onto_of_not_isDelete c hbefore, List.getLast?_concat]
    rfl

/-- With a delete among the changes it does not matter what waited before. -/
theorem settle_of_delete (h : ∃ d ∈ cs, d.isDelete) :
    settle old cs = (cs.filter isDelete).getLast? := by
  induction cs using List.reverseRecOn with
  | nil => simp at h
  | append_singleton cs c ih =>
    rw [settle_concat, List.filter_append]
    by_cases hc : c.isDelete = true
    · rw [onto_of_isDelete hc]
      simp [hc]
    · obtain ⟨d, hd, hdel⟩ := h
      have hd' : d ∈ cs := by
        rcases List.mem_append.mp hd with hd | hd
        · exact hd
        · rw [List.mem_singleton] at hd
          exact absurd (hd ▸ hdel) hc
      rw [ih ⟨d, hd', hdel⟩]
      have hu : c.isUpsert = true := isUpsert_of_not_isDelete hc
      cases hl : (cs.filter isDelete).getLast? with
      | none =>
        have hnil := List.getLast?_eq_none_iff.mp hl
        have := List.mem_filter.mpr ⟨hd', hdel⟩
        rw [hnil] at this
        cases this
      | some a =>
        have ha := (List.mem_filter.mp (List.mem_of_getLast? hl)).2
        rw [onto_isDelete ha hu]
        simp [hc, hl]

end Change

namespace Buffer

/-- What a sequence of changes does under one id is what the changes of that id do. -/
theorem getElem?_recordAll (b : Buffer) (cs : List Change) (id : String) :
    (b.recordAll cs).pending[id]? = Change.settle b.pending[id]? (Change.withId id cs) := by
  induction cs generalizing b with
  | nil => rfl
  | cons c cs ih =>
    show ((b.record c).recordAll cs).pending[id]? = _
    rw [ih, getElem?_record]
    unfold Change.withId
    by_cases hc : c.id = id ∧ id ≠ ""
    · rw [if_pos hc, List.filter_cons_of_pos (by simpa using hc)]
      rfl
    · rw [if_neg hc, List.filter_cons_of_neg (by simpa using hc)]

end Buffer

end ClusterFeed
