import ClusterFeed.Proofs.Feeding.Coalescing

/-!
# The effect of a sending

All that one sending does to a buffer, from its beginning to its end, while changes come in: what
waits afterwards, what is counted, and what was sent. What came in meanwhile waits as if it had come
into an empty buffer, laid over whatever of the batch is put back.

The sending is one call of `flush`.
-/

namespace ClusterFeed

open Sync (SyncError)

namespace Pending

/-- Putting a batch back is laying what waits over the batch: of two changes of one id the one that
waits counts. -/
theorem restore_eq_union (p batch : Pending) : p.restore batch = batch ∪ p := by
  refine Std.ExtTreeMap.ext_getElem? fun id => ?_
  rw [getElem?_restore, Std.ExtTreeMap.getElem?_union]

/-- Of changes under their own ids the same part is left whether the ids are read off the changes or
off the places where they wait. -/
theorem Sound.filter_eq {p : Pending} (h : p.Sound) (kept : String → Bool) :
    p.filter (fun id _ => kept id) = p.filter fun _ c => kept c.id := by
  refine Std.ExtTreeMap.ext_getElem? fun id => ?_
  rw [Std.ExtTreeMap.getElem?_filter', Std.ExtTreeMap.getElem?_filter']
  cases hc : p[id]? with
  | none => rfl
  | some c => simp only [Option.filter, (h id c hc).1]

end Pending

namespace Buffer

variable {b : Buffer} {during : List Change}

/-- What waits when changes have come into an empty buffer. -/
def gathered (cs : List Change) : Pending := ((new ⟨0⟩ true).recordAll cs).pending

/-- How many changes have no id. -/
def unnamed (cs : List Change) : Nat := cs.countP fun c => c.id = ""

/-- What comes in changes nothing but what waits and how much was dropped. -/
theorem recordAll_eq (b : Buffer) (cs : List Change) :
    b.recordAll cs =
      { b with pending := (b.recordAll cs).pending, dropped := (b.recordAll cs).dropped } := by
  induction cs generalizing b with
  | nil => rfl
  | cons c cs ih =>
    show (b.record c).recordAll cs = { b with
      pending := ((b.record c).recordAll cs).pending
      dropped := ((b.record c).recordAll cs).dropped }
    rw [ih (b.record c)]
    unfold record noteDropped
    split <;> rfl

theorem recordAll_emptied (b : Buffer) (cs : List Change) :
    ({ b with pending := ∅ } : Buffer).recordAll cs =
      { b with pending := gathered cs, dropped := b.dropped + unnamed cs } := by
  have hpending : (({ b with pending := ∅ } : Buffer).recordAll cs).pending = gathered cs := by
    refine Std.ExtTreeMap.ext_getElem? fun id => ?_
    rw [gathered, getElem?_recordAll_of_empty rfl, getElem?_recordAll_of_empty rfl]
  rw [recordAll_eq, hpending, dropped_recordAll]
  rfl

/-- A sending of what waits ends in a buffer that was emptied and into which changes have come. -/
theorem flush_of_attached (hp : b.pending ≠ ∅) (ha : b.attached = true)
    (outcome : Except SyncError Sync.Response) (during : List Change) :
    b.flush outcome during =
      let after : Buffer :=
        { b with pending := gathered during, dropped := b.dropped + unnamed during }
      ((after.endFlush b.pending outcome).1, [batchRequest b.pending],
        (after.endFlush b.pending outcome).2) := by
  dsimp only
  rw [← recordAll_emptied, flush, startFlush_of_attached hp ha]

theorem endFlush_accepted {batch : Pending} (h : batch.Sound) (b : Buffer) (r : Sync.Response) :
    b.endFlush batch (.ok r) =
      let ups := batch.values.countP Change.isUpsert
      let dels := batch.values.countP Change.isDelete
      (.ok ⟨ups, dels, 0, 0⟩, b.markFlushed ups dels batch.size) := by
  dsimp only
  rw [endFlush, length_batchUpserts fun id c hc => (h id c hc).2, length_batchDeletes]

theorem endFlush_failed {e : SyncError} (he : e.partial? = none) (b : Buffer) (batch : Pending) :
    b.endFlush batch (.error e) = (.error e, { b with pending := batch ∪ b.pending }) := by
  rw [endFlush, he]
  dsimp only
  rw [Pending.restore_eq_union]

theorem endFlush_refused {batch : Pending} (h : batch.Sound) {e : SyncError} {r : Sync.Response}
    (he : e.partial? = some r) (b : Buffer) :
    b.endFlush batch (.error e) =
      let refused := batch.filter fun _ c => c.id ∈ r.failures.map (·.id)
      let taken := batch.filter fun _ c => c.id ∉ r.failures.map (·.id)
      (.error e, { b.markFlushed (taken.values.countP Change.isUpsert)
        (taken.values.countP Change.isDelete) taken.size with
          pending := refused ∪ b.pending }) := by
  have hlisted : ∀ id : String, r.failures.any (·.id == id) =
      decide (id ∈ r.failures.map (·.id)) := by
    intro id
    rw [Bool.eq_iff_iff, List.any_eq_true, decide_eq_true_iff, List.mem_map]
    simp only [beq_iff_eq]
  have hrefused : refusedPart r batch =
      batch.filter fun _ c => c.id ∈ r.failures.map (·.id) := by
    rw [refusedPart]
    simp only [hlisted]
    exact h.filter_eq fun id => decide (id ∈ r.failures.map (·.id))
  have htaken : acceptedPart r batch =
      batch.filter fun _ c => c.id ∉ r.failures.map (·.id) := by
    rw [acceptedPart]
    simp only [hlisted, ← decide_not]
    exact h.filter_eq fun id => decide (id ∉ r.failures.map (·.id))
  have hups : countUpserts (acceptedPart r batch) =
      (acceptedPart r batch).values.countP Change.isUpsert := List.countP_eq_length_filter.symm
  have hdels : (acceptedPart r batch).size - countUpserts (acceptedPart r batch) =
      (acceptedPart r batch).values.countP Change.isDelete := by
    rw [size_eq_upserts_add_deletes, hups, Nat.add_sub_cancel_left]
  rw [endFlush, he]
  dsimp only
  rw [hdels, hups, htaken, hrefused, Pending.restore_eq_union, markFlushed]

/-- All that a sending does to the buffer `b` while the changes `during` come in. -/
structure FlushEffect (b : Buffer) (during : List Change) : Prop where
  /-- When nothing waits it ends at once, and nothing is sent. -/
  idle : b.pending = ∅ → ∀ outcome, b.flush outcome during = (.ok ⟨0, 0, 0, 0⟩, [], b)
  /-- Without an index what waits is thrown away, and nothing is sent or counted. -/
  discarded : b.pending ≠ ∅ → b.attached = false → ∀ outcome, b.flush outcome during =
    (.ok ⟨0, 0, 0, b.pending.size⟩, [], { b with pending := ∅ })
  /-- When the batch is accepted, all of it is counted, and what came in meanwhile waits. -/
  accepted : b.pending ≠ ∅ → b.attached = true → ∀ r, b.flush (.ok r) during =
    let ups := b.pending.values.countP Change.isUpsert
    let dels := b.pending.values.countP Change.isDelete
    (.ok ⟨ups, dels, 0, 0⟩, [batchRequest b.pending],
      { b with
        pending := gathered during
        upserts := b.upserts + ups
        deletes := b.deletes + dels
        flushes := b.flushes + 1
        lastSize := some b.pending.size
        dropped := b.dropped + unnamed during })
  /-- When the request fails as a whole, nothing is counted, and what came in meanwhile waits,
  laid over the batch. -/
  failed : b.pending ≠ ∅ → b.attached = true → ∀ e : SyncError, e.partial? = none →
    b.flush (.error e) during = (.error e, [batchRequest b.pending],
      { b with
        pending := b.pending ∪ gathered during
        dropped := b.dropped + unnamed during })
  /-- If nothing came in meanwhile, the buffer is as it was. -/
  restored : b.attached = true → ∀ e : SyncError, e.partial? = none →
    (b.flush (.error e) []).2.2 = b
  /-- When the answer refuses some ids, whichever they are, the changes of the other ids are
  counted, and what came in meanwhile waits, laid over the changes that were refused. -/
  refused : b.pending ≠ ∅ → b.attached = true → ∀ (e : SyncError) (r : Sync.Response),
    e.partial? = some r → b.flush (.error e) during =
      let refused := b.pending.filter fun _ c => c.id ∈ r.failures.map (·.id)
      let taken := b.pending.filter fun _ c => c.id ∉ r.failures.map (·.id)
      (.error e, [batchRequest b.pending],
        { b with
          pending := refused ∪ gathered during
          upserts := b.upserts + taken.values.countP Change.isUpsert
          deletes := b.deletes + taken.values.countP Change.isDelete
          flushes := b.flushes + 1
          lastSize := some taken.size
          dropped := b.dropped + unnamed during })

/-- The effect of a sending of changes that were built, whatever it comes to and whatever comes in
meanwhile. -/
theorem flush_has_effect (b : Buffer) (h : b.pending.Sound) (during : List Change) :
    b.FlushEffect during where
  idle hp outcome := by
    rw [flush, startFlush_of_empty hp, ← hp]
  discarded hp ha outcome := by
    rw [flush, startFlush_of_unattached hp ha]
  accepted hp ha r := by
    rw [flush_of_attached hp ha]
    dsimp only
    rw [endFlush_accepted h]
    rfl
  failed hp ha e he := by
    rw [flush_of_attached hp ha]
    dsimp only
    rw [endFlush_failed he]
  restored ha e he := by
    by_cases hp : b.pending = ∅
    · rw [flush, startFlush_of_empty hp, ← hp]
    · rw [flush_of_attached hp ha]
      dsimp only
      rw [endFlush_failed he]
      have hsame : b.pending ∪ gathered [] = b.pending :=
        Std.ExtTreeMap.ext_getElem? fun id => by
          rw [Std.ExtTreeMap.getElem?_union]
          rfl
      dsimp only
      rw [hsame]
      rfl
  refused hp ha e r he := by
    rw [flush_of_attached hp ha]
    dsimp only
    rw [endFlush_refused h he]
    rfl

/-- Snapshots of two resources and the delete of a third one. -/
def threeChanges : List Change :=
  [.upsert ⟨"a", "default", "Pod", "v1", ∅, ∅, ⟨1, 0⟩⟩,
    .upsert ⟨"b", "default", "Pod", "v1", ∅, ∅, ⟨2, 0⟩⟩, .delete ⟨"default", "v1", "Pod", "c"⟩]

/-- An answer that refuses the second resource twice, and another one that was never sent. -/
def refusesSecond : Sync.Response :=
  ⟨false, none, some ⟨"PARTIAL", "", some ⟨0, 0, [⟨"default:v1:Pod:b", "no"⟩,
    ⟨"default:v1:Pod:b", "no"⟩, ⟨"default:v1:Pod:x", "no"⟩]⟩⟩⟩

/-- While it is on its way a newer snapshot of the second resource and a change without id come in.
Two changes count, and the newer snapshot waits. -/
theorem flush_has_effect_threeChanges :
    let b := (new ⟨0⟩ true).recordAll threeChanges
    let newer : Change := .upsert ⟨"b", "default", "Pod", "v1", ∅, ∅, ⟨3, 0⟩⟩
    b.pending.Sound ∧ b.pending ≠ ∅ ∧ b.attached = true ∧
      (b.flush (.error (.partialFailure refusesSecond)) [newer, ⟨.delete, "", none, none⟩]).2.2 =
        { b with
          pending := (∅ : Pending).insert "default:v1:Pod:b" newer
          upserts := 1
          deletes := 1
          flushes := 1
          dropped := 1
          lastSize := some 2 } := by
  intro b newer
  have hsound : b.pending.Sound := by
    refine Pending.Sound.recordAll Pending.sound_empty fun c hc _ => ?_
    simp only [threeChanges, List.mem_cons, List.not_mem_nil, or_false] at hc
    rcases hc with rfl | rfl | rfl
    · exact .inl ⟨_, rfl⟩
    · exact .inl ⟨_, rfl⟩
    · exact .inr ⟨_, rfl⟩
  have hp : b.pending ≠ ∅ := by decide +kernel
  have hrefused := (flush_has_effect b hsound [newer, ⟨.delete, "", none, none⟩]).refused hp rfl
    (.partialFailure refusesSecond) refusesSecond rfl
  refine ⟨hsound, hp, rfl, ?_⟩
  rw [hrefused]
  decide +kernel

end Buffer

end ClusterFeed
