import ClusterFeed.Buffer.Basic
import ClusterFeed.Proofs.KeyedMap

/-!
# What waits under an id

Each operation of the buffer in terms of what waits under one id before it and after it. What comes
in meets only the change that waits under its own id, and what is put back only fills empty places.
-/

namespace ClusterFeed

open Sync (SyncError)

namespace Change

theorem isDelete_eq_not_isUpsert (c : Change) : c.isDelete = !c.isUpsert := by
  unfold isDelete isUpsert
  cases c.action <;> rfl

theorem isUpsert_of_not_isDelete {c : Change} (h : ¬ c.isDelete) : c.isUpsert := by
  rw [c.isDelete_eq_not_isUpsert] at h
  simpa using h

theorem Built.id_ne_empty {c : Change} (h : c.Built) : c.id ≠ "" := by
  have hid : ∀ i : Identifier, i.id ≠ "" := by
    intro i hi
    have := congrArg String.length hi
    simp [Identifier.id] at this
  rcases h with ⟨s, rfl⟩ | ⟨i, rfl⟩
  · exact hid s.identifier
  · exact hid i

theorem Built.isSome_data {c : Change} (h : c.Built) : c.data.isSome = c.isUpsert := by
  rcases h with ⟨s, rfl⟩ | ⟨i, rfl⟩ <;> rfl

/-- Whether a change is lost on what waits under its id: an upsert behind a delete. -/
def isLostOn (c : Change) : Option Change → Bool
  | some old => old.isDelete && c.isUpsert
  | none => false

/-- What waits under an id after a change of that id has come in. -/
def onto (c : Change) (old : Option Change) : Change :=
  if c.isLostOn old then old.getD c else c

end Change

namespace Pending

theorem getElem?_merge (p : Pending) (c : Change) (id : String) :
    (p.merge c)[id]? = if c.id = id then some (c.onto p[id]?) else p[id]? := by
  unfold merge Change.onto Change.isLostOn
  by_cases h : c.id = id
  · subst h
    cases hp : p[c.id]? with
    | none => simp
    | some old =>
      by_cases hl : (old.isDelete && c.isUpsert) = true
      · simp [hl, hp]
      · simp [hl]
  · rw [if_neg h]
    cases p[c.id]? with
    | none => exact (KeyedMap.getElem?_insert_eq p c.id id c).trans (if_neg h)
    | some old =>
      dsimp only
      split
      · rfl
      · exact (KeyedMap.getElem?_insert_eq p c.id id c).trans (if_neg h)

/-- Putting entries back one after the other: what waits already stays, and of the entries with one
id the first fills the place. -/
theorem getElem?_foldl_restore (l : List (String × Change)) (p : Pending) (id : String) :
    (l.foldl (fun m e => if m.contains e.1 then m else m.insert e.1 e.2) p)[id]? =
      p[id]?.or ((l.find? (·.1 == id)).map (·.2)) := by
  induction l generalizing p with
  | nil => simp
  | cons e l ih =>
    rw [List.foldl_cons, ih, List.find?_cons]
    by_cases hc : p.contains e.1 = true
    · rw [if_pos hc]
      by_cases he : e.1 = id
      · have hs : p[id]?.isSome = true := by
          rw [← he, Std.ExtTreeMap.isSome_getElem?_eq_contains, hc]
        obtain ⟨c, hpc⟩ := Option.isSome_iff_exists.mp hs
        rw [hpc, Option.some_or, Option.some_or]
      · rw [beq_false_of_ne he]
    · rw [if_neg hc, KeyedMap.getElem?_insert_eq]
      by_cases he : e.1 = id
      · have hn : p[id]? = none := by
          rw [← he]
          exact Std.ExtTreeMap.getElem?_eq_none_of_contains_eq_false (eq_false_of_ne_true hc)
        rw [if_pos he, hn, beq_iff_eq.mpr he]
        rfl
      · rw [if_neg he, beq_false_of_ne he]

theorem find?_toList (p : Pending) (id : String) :
    (p.toList.find? (·.1 == id)).map (·.2) = p[id]? := by
  cases hf : p.toList.find? (·.1 == id) with
  | none =>
    cases hp : p[id]? with
    | none => rfl
    | some c =>
      have := List.find?_eq_none.mp hf (id, c)
        (Std.ExtTreeMap.mem_toList_iff_getElem?_eq_some.mpr hp)
      simp at this
  | some e =>
    have he : e.1 = id := by simpa using List.find?_some hf
    have hm := Std.ExtTreeMap.mem_toList_iff_getElem?_eq_some.mp (List.mem_of_find?_eq_some hf)
    rw [← he, hm]
    rfl

/-- What is put back only fills empty places. -/
theorem getElem?_restore (p batch : Pending) (id : String) :
    (p.restore batch)[id]? = p[id]?.or batch[id]? := by
  unfold restore
  rw [Std.ExtTreeMap.foldl_eq_foldl_toList, getElem?_foldl_restore, find?_toList]

end Pending

namespace Buffer

/-- What came in keeps to its own id; a change without id does not come in at all. -/
theorem getElem?_record (b : Buffer) (c : Change) (id : String) :
    (b.record c).pending[id]? =
      if c.id = id ∧ id ≠ "" then some (c.onto b.pending[id]?) else b.pending[id]? := by
  unfold record
  by_cases he : c.id = ""
  · have hn : ¬ (c.id = id ∧ id ≠ "") := fun h => h.2 (h.1.symm.trans he)
    rw [if_pos he, if_neg hn]
    rfl
  · rw [if_neg he]
    by_cases h : c.id = id
    · have hid : id ≠ "" := fun hid => he (h.trans hid)
      rw [if_pos ⟨h, hid⟩]
      exact (Pending.getElem?_merge _ _ _).trans (if_pos h)
    · rw [if_neg (fun hc => h hc.1)]
      exact (Pending.getElem?_merge _ _ _).trans (if_neg h)

theorem record_pending_of_no_id {c : Change} (b : Buffer) (h : c.id = "") :
    (b.record c).pending = b.pending := by
  rw [record, if_pos h, noteDropped]

/-- An upsert behind a delete leaves what waits as it is. -/
theorem record_pending_of_isLost {b : Buffer} {c : Change}
    (h : c.isLostOn b.pending[c.id]? = true) : (b.record c).pending = b.pending := by
  ext id : 1
  rw [getElem?_record]
  split
  · rename_i hid
    rw [← hid.1, Change.onto, if_pos h]
    cases hp : b.pending[c.id]? with
    | none => simp [hp, Change.isLostOn] at h
    | some old => rfl
  · rfl

@[simp] theorem record_attached (b : Buffer) (c : Change) :
    (b.record c).attached = b.attached := by
  unfold record noteDropped
  split <;> rfl

/-! ## Sendings -/

theorem startFlush_of_empty {b : Buffer} (h : b.pending = ∅) :
    b.startFlush = (.done ⟨0, 0, 0, 0⟩, { b with pending := ∅ }) := by
  unfold startFlush
  rw [if_pos (Std.ExtTreeMap.isEmpty_iff.mpr h)]

theorem startFlush_of_attached {b : Buffer} (hp : b.pending ≠ ∅) (ha : b.attached = true) :
    b.startFlush = (.inFlight b.pending, { b with pending := ∅ }) := by
  unfold startFlush
  rw [if_neg (fun h => hp (Std.ExtTreeMap.isEmpty_iff.mp h)), if_pos ha]

theorem startFlush_of_unattached {b : Buffer} (hp : b.pending ≠ ∅) (ha : b.attached = false) :
    b.startFlush = (.done ⟨0, 0, 0, b.pending.size⟩, { b with pending := ∅ }) := by
  unfold startFlush
  rw [if_neg (fun h => hp (Std.ExtTreeMap.isEmpty_iff.mp h)), if_neg (by simp [ha])]

/-- Whether the index took the change of an id, given the answer to the batch that it was in. A
request that failed as a whole took nothing that the buffer knows of. -/
def wasTaken (outcome : Except SyncError Sync.Response) (id : String) : Bool :=
  match outcome with
  | .ok _ => true
  | .error e =>
    match e.partial? with
    | some r => !r.failures.any (·.id == id)
    | none => false

@[simp] theorem endFlush_attached (b : Buffer) (batch : Pending)
    (outcome : Except SyncError Sync.Response) :
    (b.endFlush batch outcome).2.attached = b.attached := by
  unfold endFlush markFlushed
  cases outcome with
  | ok r => rfl
  | error e => cases hp : e.partial? <;> simp [hp]

/-- At the end of a sending all that was not taken is put back where nothing newer waits. -/
theorem getElem?_endFlush (b : Buffer) (batch : Pending)
    (outcome : Except SyncError Sync.Response) (id : String) :
    (b.endFlush batch outcome).2.pending[id]? =
      b.pending[id]?.or (if wasTaken outcome id then none else batch[id]?) := by
  unfold endFlush wasTaken
  cases outcome with
  | ok r => simp [markFlushed]
  | error e =>
    cases hp : e.partial? with
    | none => simp [Pending.getElem?_restore, hp]
    | some r =>
      simp only [hp]
      rw [Pending.getElem?_restore, refusedPart, Std.ExtTreeMap.getElem?_filter']
      cases batch[id]? with
      | none => simp [markFlushed]
      | some c => cases r.failures.any (·.id == id) <;> simp [markFlushed, Option.filter]

end Buffer

end ClusterFeed
