import ClusterFeed.Proofs.Buffer.Waiting

/-!
# What a sending adds to the counts

A sending counts what the index took: the whole batch when it was accepted, all but the named ids
when it was refused in part, and nothing at all when it failed.

The counts are those that `mark_flushed` adds to.
-/

namespace ClusterFeed

open Sync (SyncError)

namespace Buffer

/-- A change that comes in is not counted. -/
theorem record_counts (b : Buffer) (c : Change) :
    (b.record c).upserts = b.upserts ∧ (b.record c).deletes = b.deletes ∧
      (b.record c).flushes = b.flushes := by
  unfold record noteDropped
  split
  · exact ⟨rfl, rfl, rfl⟩
  · exact ⟨rfl, rfl, rfl⟩

/-- The changes of a batch that the index took. -/
def takenPart (outcome : Except SyncError Sync.Response) (batch : Pending) : Pending :=
  batch.filter fun id _ => wasTaken outcome id

/-- Whether a sending counts: the index took the batch or at least looked at its items. -/
def hasLanded : Except SyncError Sync.Response → Bool
  | .ok _ => true
  | .error e => e.partial?.isSome

theorem getElem?_takenPart (outcome : Except SyncError Sync.Response) (batch : Pending)
    (id : String) :
    (takenPart outcome batch)[id]? = if wasTaken outcome id then batch[id]? else none := by
  unfold takenPart
  rw [Std.ExtTreeMap.getElem?_filter']
  cases batch[id]? with
  | none => simp
  | some c => cases wasTaken outcome id <;> rfl

theorem takenPart_ok (r : Sync.Response) (batch : Pending) : takenPart (.ok r) batch = batch := by
  ext id : 1
  rw [getElem?_takenPart]
  rfl

theorem takenPart_of_failed {e : SyncError} (h : e.partial? = none) (batch : Pending) :
    takenPart (.error e) batch = ∅ := by
  ext id : 1
  rw [getElem?_takenPart]
  simp [wasTaken, h]

theorem takenPart_of_partial {e : SyncError} {r : Sync.Response} (h : e.partial? = some r)
    (batch : Pending) : takenPart (.error e) batch = acceptedPart r batch := by
  unfold takenPart acceptedPart wasTaken
  simp only [h]

theorem length_batchUpserts {batch : Pending}
    (h : ∀ (id : String) (c : Change), batch[id]? = some c → c.Built) :
    (batchUpserts batch).length = batch.values.countP Change.isUpsert := by
  unfold batchUpserts
  rw [List.length_filterMap_eq_countP]
  refine List.countP_congr fun c hc => ?_
  obtain ⟨id, hid⟩ := KeyedMap.mem_values.mp hc
  have := (h id c hid).isSome_data
  cases hu : c.isUpsert <;> simp_all

theorem length_batchDeletes (batch : Pending) :
    (batchDeletes batch).length = batch.values.countP Change.isDelete := by
  unfold batchDeletes
  rw [List.length_filterMap_eq_countP]
  refine List.countP_congr fun c _ => ?_
  cases c.isDelete <;> simp

/-- Every change is an upsert or a delete. -/
theorem size_eq_upserts_add_deletes (p : Pending) :
    p.size = p.values.countP Change.isUpsert + p.values.countP Change.isDelete := by
  rw [← KeyedMap.length_values]
  induction p.values with
  | nil => rfl
  | cons c cs ih =>
    rw [List.length_cons, ih, List.countP_cons, List.countP_cons, c.isDelete_eq_not_isUpsert]
    cases c.isUpsert <;> simp <;> omega

variable {b : Buffer} {batch : Pending} {outcome : Except SyncError Sync.Response}

theorem endFlush_upserts (h : ∀ (id : String) (c : Change), batch[id]? = some c → c.Built) :
    (b.endFlush batch outcome).2.upserts =
      b.upserts + (takenPart outcome batch).values.countP Change.isUpsert := by
  cases outcome with
  | ok r => rw [takenPart_ok, ← length_batchUpserts h, endFlush, markFlushed]
  | error e =>
    cases hp : e.partial? with
    | none =>
      rw [takenPart_of_failed hp]
      simp [endFlush, hp, KeyedMap.values_eq_map_toList]
    | some r =>
      rw [takenPart_of_partial hp]
      simp [endFlush, hp, markFlushed, countUpserts, List.countP_eq_length_filter]

theorem endFlush_deletes :
    (b.endFlush batch outcome).2.deletes =
      b.deletes + (takenPart outcome batch).values.countP Change.isDelete := by
  cases outcome with
  | ok r => rw [takenPart_ok, ← length_batchDeletes, endFlush, markFlushed]
  | error e =>
    cases hp : e.partial? with
    | none =>
      rw [takenPart_of_failed hp]
      simp [endFlush, hp, KeyedMap.values_eq_map_toList]
    | some r =>
      have hsize := size_eq_upserts_add_deletes (acceptedPart r batch)
      rw [takenPart_of_partial hp]
      simp only [endFlush, hp, markFlushed, countUpserts, ← List.countP_eq_length_filter]
      omega

theorem endFlush_flushes :
    (b.endFlush batch outcome).2.flushes = b.flushes + if hasLanded outcome then 1 else 0 := by
  cases outcome with
  | ok r => rfl
  | error e => cases hp : e.partial? <;> simp [endFlush, hp, markFlushed, hasLanded]

end Buffer

end ClusterFeed
