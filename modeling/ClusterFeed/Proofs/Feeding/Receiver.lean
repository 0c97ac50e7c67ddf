import ClusterFeed.Proofs.Buffer.Counts
import ClusterFeed.Proofs.Watch.Objects

/-!
# The index that receives the requests

The index keeps a snapshot for each id. An accepted request takes effect as a whole, and one that
was refused in part takes effect but for the items that were named. Of a request that failed nobody
knows which of its items took effect.
-/

namespace ClusterFeed

open Sync (SyncError)

/-- What the index holds. -/
abbrev Index := TextMap Snapshot

/-- The index after a request of which the items with certain ids took effect. -/
def Index.apply (ix : Index) (taken : String → Bool) (r : Sync.Request) : Index :=
  (r.upserts.filter fun s => taken s.id).foldl (fun ix s => ix.insert s.id s)
    ((r.deletes.filter taken).foldl (fun ix id => ix.erase id) ix)

/-- Which items of a request take effect when it ends with an outcome; of a request that failed as
a whole those that got as far as the index. -/
def Index.effect (outcome : Except SyncError Sync.Response) (reached : String → Bool)
    (id : String) : Bool :=
  if Buffer.hasLanded outcome then Buffer.wasTaken outcome id else reached id

/-- Each change of a map was built and is under its own id. -/
def Pending.Sound (p : Pending) : Prop :=
  ∀ (id : String) (c : Change), p[id]? = some c → c.id = id ∧ c.Built

namespace Pending

theorem sound_empty : (∅ : Pending).Sound := by
  intro id c hc
  simp at hc

/-- What comes in keeps the changes sound. -/
theorem Sound.record {b : Buffer} (h : b.pending.Sound) {c : Change} (hc : c.Built) :
    (b.record c).pending.Sound := by
  intro id c' hc'
  rw [Buffer.getElem?_record] at hc'
  split at hc'
  · rename_i hid
    cases hc'
    unfold Change.onto
    split
    · cases hp : b.pending[id]? with
      | none => exact ⟨hid.1, hc⟩
      | some old => exact h id old hp
    · exact ⟨hid.1, hc⟩
  · exact h id c' hc'

/-- What is put back keeps the changes sound. -/
theorem Sound.endFlush {b : Buffer} (h : b.pending.Sound) {batch : Pending} (hbatch : batch.Sound)
    (outcome : Except SyncError Sync.Response) : (b.endFlush batch outcome).2.pending.Sound := by
  intro id c hc
  rw [Buffer.getElem?_endFlush] at hc
  cases hp : b.pending[id]? with
  | some old =>
    rw [hp] at hc
    cases hc
    exact h id c hp
  | none =>
    rw [hp, Option.none_or] at hc
    split at hc
    · cases hc
    · exact hbatch id c hc

end Pending

namespace Index

theorem effect_of_wasTaken {outcome : Except SyncError Sync.Response} {id : String}
    (h : Buffer.wasTaken outcome id = true) (reached : String → Bool) :
    effect outcome reached id = true := by
  have hlanded : Buffer.hasLanded outcome = true := by
    cases outcome with
    | ok r => rfl
    | error e =>
      unfold Buffer.wasTaken at h
      cases hp : e.partial? with
      | none => simp [hp] at h
      | some r => simp [Buffer.hasLanded, hp]
  rw [effect, if_pos hlanded, h]

variable {batch : Pending}

theorem mem_batchUpserts (h : batch.Sound) {s : Snapshot} :
    s ∈ Buffer.batchUpserts batch ↔ batch[s.id]? = some (.upsert s) := by
  unfold Buffer.batchUpserts
  rw [List.mem_filterMap]
  constructor
  · rintro ⟨c, hc, hs⟩
    obtain ⟨id, hid⟩ := KeyedMap.mem_values.mp hc
    obtain ⟨hown, ⟨s', rfl⟩ | ⟨i, rfl⟩⟩ := h id c hid
    · cases hs
      rw [← hown] at hid
      exact hid
    · cases hs
  · intro hb
    exact ⟨.upsert s, KeyedMap.mem_values.mpr ⟨s.id, hb⟩, rfl⟩

theorem mem_batchDeletes (h : batch.Sound) {id : String} :
    id ∈ Buffer.batchDeletes batch ↔ ∃ c, batch[id]? = some c ∧ c.isDelete := by
  unfold Buffer.batchDeletes
  rw [List.mem_filterMap]
  constructor
  · rintro ⟨c, hc, hd⟩
    obtain ⟨id', hid⟩ := KeyedMap.mem_values.mp hc
    split at hd
    · rename_i hdel
      cases hd
      rw [← (h id' c hid).1] at hid
      exact ⟨c, hid, hdel⟩
    · cases hd
  · rintro ⟨c, hb, hdel⟩
    refine ⟨c, KeyedMap.mem_values.mpr ⟨id, hb⟩, ?_⟩
    rw [if_pos hdel, (h id c hb).1]

/-- The snapshot that a request puts under an id: the one of the batch, if it took effect. -/
theorem findRev?_batchUpserts (h : batch.Sound) (taken : String → Bool) (id : String)
    (s : Snapshot) :
    (((Buffer.batchUpserts batch).filter fun s => taken s.id).findRev?
        fun s => decide (s.id = id)) = some s ↔
      batch[id]? = some (.upsert s) ∧ taken id = true := by
  have hmem : ∀ s, s ∈ (Buffer.batchUpserts batch).filter (fun s => taken s.id) ↔
      batch[s.id]? = some (.upsert s) ∧ taken s.id = true := by
    intro s
    rw [List.mem_filter, mem_batchUpserts h]
  have hfound : ∀ s, (((Buffer.batchUpserts batch).filter fun s => taken s.id).findRev?
      fun s => decide (s.id = id)) = some s → batch[id]? = some (.upsert s) ∧ taken id = true := by
    intro s hf
    obtain ⟨hm, hid⟩ := Itemwise.mem_of_findRev? hf
    have hsid : s.id = id := of_decide_eq_true hid
    rw [← hsid]
    exact (hmem s).mp hm
  constructor
  · exact hfound s
  · rintro ⟨hb, ht⟩
    have hsid : s.id = id := (h id _ hb).1
    cases hf : ((Buffer.batchUpserts batch).filter fun s => taken s.id).findRev?
        fun s => decide (s.id = id) with
    | none =>
      have hm := (hmem s).mpr ⟨by rw [hsid, hb], by rw [hsid, ht]⟩
      exact absurd (decide_eq_true hsid) (Itemwise.findRev?_eq_none_iff.mp hf s hm)
    | some s' =>
      have hb' := (hfound s' hf).1
      rw [hb] at hb'
      exact (congrArg Change.data (Option.some.inj hb')).symm

/-- What the index holds under an id after a batch: what the change of the id brings, if there is
one and it took effect, and what it held before otherwise. -/
theorem getElem?_apply (h : batch.Sound) (ix : Index) (taken : String → Bool) (id : String) :
    (ix.apply taken (Buffer.batchRequest batch))[id]? =
      match batch[id]? with
      | some c => if taken id then c.data else ix[id]?
      | none => ix[id]? := by
  unfold apply Buffer.batchRequest
  rw [KeyedMap.getElem?_foldl_insert (fun s : Snapshot => s.id) (fun s => s),
    KeyedMap.getElem?_foldl_erase]
  have hupsert := findRev?_batchUpserts h taken id
  have hdelete : id ∈ (Buffer.batchDeletes batch).filter taken ↔
      (∃ c, batch[id]? = some c ∧ c.isDelete) ∧ taken id = true := by
    rw [List.mem_filter, mem_batchDeletes h]
  cases hf : ((Buffer.batchUpserts batch).filter fun s => taken s.id).findRev?
      fun s => decide (s.id = id) with
  | some s =>
    obtain ⟨hb, ht⟩ := (hupsert s).mp hf
    simp only [hb, ht, if_true]
    rfl
  | none =>
    have hno : ∀ s, batch[id]? = some (.upsert s) → ¬ taken id = true := by
      intro s hb ht
      rw [(hupsert s).mpr ⟨hb, ht⟩] at hf
      cases hf
    rw [Option.map_none, Option.none_or]
    cases hb : batch[id]? with
    | none =>
      rw [if_neg]
      intro hd
      obtain ⟨⟨c, hc, -⟩, -⟩ := hdelete.mp hd
      rw [hb] at hc
      cases hc
    | some c =>
      obtain ⟨-, ⟨s, rfl⟩ | ⟨i, rfl⟩⟩ := h id c hb
      · have hd : id ∉ (Buffer.batchDeletes batch).filter taken := fun hd =>
          hno s hb (hdelete.mp hd).2
        rw [if_neg hd]
        exact (if_neg (hno s hb)).symm
      · by_cases ht : taken id = true
        · rw [if_pos (hdelete.mpr ⟨⟨_, hb, rfl⟩, ht⟩)]
          exact (if_pos ht).symm
        · rw [if_neg fun hd => ht (hdelete.mp hd).2]
          exact (if_neg ht).symm

/-- What the index tells under an id after a batch. -/
theorem map_face_apply (h : batch.Sound) (ix : Index) (taken : String → Bool) (id : String) :
    ((ix.apply taken (Buffer.batchRequest batch))[id]?).map Snapshot.face =
      match batch[id]? with
      | some c => if taken id then c.verdict else (ix[id]?).map Snapshot.face
      | none => (ix[id]?).map Snapshot.face := by
  rw [getElem?_apply h]
  cases hb : batch[id]? with
  | none => rfl
  | some c =>
    have hverdict : c.verdict = c.data.map Snapshot.face := by
      obtain ⟨-, ⟨s, rfl⟩ | ⟨i, rfl⟩⟩ := h id c hb
      · rfl
      · rfl
    by_cases ht : taken id = true
    · simp only [ht, if_true, hverdict]
    · simp only [ht, if_false, Bool.false_eq_true]

end Index

end ClusterFeed
