import ClusterFeed.Proofs.Buffer.Sequence

/-!
# Changes that come in while a sending fails

A sending that fails as a whole puts back all that nothing newer has replaced. For most ids it makes
no difference whether changes come in while the request is on its way or right after it has failed.
It does for a delete that was on its way when only upserts of its id come in. While the request is
on its way they find an empty place, and the delete does not come back. Afterwards they find the
delete and are lost.

What puts back is `requeue`, and a change that comes in goes through `merge`.
-/

namespace ClusterFeed

open Sync (SyncError)

namespace Buffer

variable {b : Buffer} {e : SyncError}

/-- The map has a delete under the id, and all changes of the id in the sequence are upserts. -/
def Overlaps (p : Pending) (cs : List Change) (id : String) : Prop :=
  (∃ d, p[id]? = some d ∧ d.isDelete) ∧
    Change.withId id cs ≠ [] ∧ ∀ c ∈ Change.withId id cs, c.isUpsert

/-- What waits after a sending that failed as a whole. -/
theorem getElem?_flush_failed (ha : b.attached = true) (hp : b.pending ≠ ∅)
    (he : e.partial? = none) (cs : List Change) (id : String) :
    (b.flush (.error e) cs).2.2.pending[id]? =
      (Change.settle none (Change.withId id cs)).or b.pending[id]? := by
  unfold flush
  rw [startFlush_of_attached hp ha]
  show ((recordAll _ cs).endFlush b.pending (.error e)).2.pending[id]? = _
  rw [getElem?_endFlush, getElem?_recordAll]
  simp [wasTaken, he]

/-- What waits under an id of which no change comes in, or a delete comes in, or a delete was not on
its way, is the same in both orders. -/
theorem settle_eq_of_not_overlaps {p : Pending} {cs : List Change} {id : String}
    (h : ¬ Overlaps p cs id) :
    (Change.settle none (Change.withId id cs)).or p[id]? =
      Change.settle p[id]? (Change.withId id cs) := by
  unfold Overlaps at h
  generalize Change.withId id cs = cs at h
  by_cases hnil : cs = []
  · subst hnil
    rfl
  · by_cases hu : ∀ c ∈ cs, c.isUpsert
    · have hold : ∀ d, p[id]? = some d → ¬ d.isDelete := fun d hd hdel =>
        h ⟨⟨d, hd, hdel⟩, hnil, hu⟩
      rw [Change.settle_upserts hold hu, Change.settle_upserts (by simp) hu, Option.or_none]
    · have hd : ∃ d ∈ cs, d.isDelete := by
        simp only [not_forall] at hu
        obtain ⟨d, hd, hu⟩ := hu
        refine ⟨d, hd, ?_⟩
        rw [d.isDelete_eq_not_isUpsert]
        simpa using hu
      obtain ⟨last, hlast⟩ : ∃ last, (cs.filter Change.isDelete).getLast? = some last := by
        obtain ⟨d, hd, hdel⟩ := hd
        have := List.mem_filter.mpr ⟨hd, hdel⟩
        exact ⟨_, List.getLast?_eq_some_getLast (List.ne_nil_of_mem this)⟩
      rw [Change.settle_of_delete hd, Change.settle_of_delete hd, hlast, Option.some_or]

/-- Changes that come in while a request that fails is on its way leave the same as changes that
come in right after it has failed, but for the ids with a delete on its way of which only upserts
come in: there the former leave the last upsert and the latter leave the delete. -/
theorem flush_failed_recordAll (b : Buffer) (e : SyncError) (cs : List Change)
    (ha : b.attached = true) (hp : b.pending ≠ ∅) (he : e.partial? = none) :
    let meanwhile := (b.flush (.error e) cs).2.2.pending
    let afterwards := ((b.flush (.error e) []).2.2.recordAll cs).pending
    (∀ id : String, ¬ Overlaps b.pending cs id → meanwhile[id]? = afterwards[id]?) ∧
      (∀ id : String, Overlaps b.pending cs id →
        meanwhile[id]? = (Change.withId id cs).getLast? ∧ afterwards[id]? = b.pending[id]?) ∧
      (meanwhile = afterwards ↔ ∀ id, ¬ Overlaps b.pending cs id) := by
  intro meanwhile afterwards
  have hmeanwhile : ∀ id : String, meanwhile[id]? =
      (Change.settle none (Change.withId id cs)).or b.pending[id]? :=
    fun id => getElem?_flush_failed ha hp he cs id
  have hafterwards : ∀ id : String, afterwards[id]? =
      Change.settle b.pending[id]? (Change.withId id cs) := by
    intro id
    rw [getElem?_recordAll, getElem?_flush_failed ha hp he [] id]
    rfl
  have hsame : ∀ id : String, ¬ Overlaps b.pending cs id → meanwhile[id]? = afterwards[id]? := by
    intro id h
    rw [hmeanwhile, hafterwards, settle_eq_of_not_overlaps h]
  have hdiffer : ∀ id : String, Overlaps b.pending cs id →
      meanwhile[id]? = (Change.withId id cs).getLast? ∧ afterwards[id]? = b.pending[id]? := by
    rintro id ⟨⟨d, hd, hdel⟩, hne, hu⟩
    refine ⟨?_, ?_⟩
    · rw [hmeanwhile, Change.settle_upserts (by simp) hu, Option.or_none,
        List.getLast?_eq_some_getLast hne, Option.some_or]
    · rw [hafterwards, hd, Change.settle_behind_delete hdel hu]
  refine ⟨hsame, hdiffer, fun heq id ho => ?_, fun h => ?_⟩
  · obtain ⟨hlast, hkept⟩ := hdiffer id ho
    obtain ⟨⟨d, hd, hdel⟩, -, hu⟩ := ho
    rw [heq, hkept, hd] at hlast
    have := hu d (List.mem_of_getLast? hlast.symm)
    rw [d.isDelete_eq_not_isUpsert, this] at hdel
    cases hdel
  · ext id : 1
    exact hsame id (h id)

/-- A snapshot that comes in while the delete of its resource is on its way. -/
def lateUpsert : Change :=
  .upsert ⟨"a", "default", "Pod", "v1", ∅, ∅, ⟨1, 0⟩⟩

/-- A buffer in which only the delete of that resource waits. -/
def deleteWaiting : Buffer :=
  (new ⟨0⟩ true).record (.delete ⟨"default", "v1", "Pod", "a"⟩)

/-- It is not the same whether a snapshot comes in before a request has failed or after it. -/
theorem flush_failed_order_matters :
    lateUpsert.Built ∧ deleteWaiting.attached = true ∧
      (∀ (id : String) (c : Change), deleteWaiting.pending[id]? = some c → c.Built) ∧
      (SyncError.status 500 "boom").partial? = none ∧
      (deleteWaiting.flush (.error (.status 500 "boom")) [lateUpsert]).2.2.pending ≠
        ((deleteWaiting.flush (.error (.status 500 "boom")) []).2.2.recordAll
          [lateUpsert]).pending := by
  refine ⟨.inl ⟨_, rfl⟩, by decide +kernel, fun id c hc => ?_, rfl, by decide +kernel⟩
  unfold deleteWaiting at hc
  rw [getElem?_record] at hc
  split at hc
  · cases hc
    exact .inr ⟨_, rfl⟩
  · simp [new] at hc

theorem flush_failed_recordAll_lateUpsert :
    Overlaps deleteWaiting.pending [lateUpsert] "default:v1:Pod:a" ∧
      (deleteWaiting.flush (.error (.status 500 "boom"))
        [lateUpsert]).2.2.pending["default:v1:Pod:a"]? = some lateUpsert := by
  have h := (flush_failed_recordAll deleteWaiting (.status 500 "boom") [lateUpsert]
    (by decide +kernel) (by decide +kernel) rfl).2.1 "default:v1:Pod:a"
  have ho : Overlaps deleteWaiting.pending [lateUpsert] "default:v1:Pod:a" := by
    refine ⟨⟨.delete ⟨"default", "v1", "Pod", "a"⟩, by decide +kernel, rfl⟩, by decide +kernel, ?_⟩
    decide +kernel
  refine ⟨ho, (h ho).1.trans ?_⟩
  decide +kernel

end Buffer

end ClusterFeed
