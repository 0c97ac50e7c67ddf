import ClusterFeed.Proofs.Buffer.Sequence
import ClusterFeed.Proofs.Feeding.Receiver

/-!
# What is sent stands for all that came in

Of all changes that come into an empty buffer only one for each id is sent. The index does not
notice: whatever it held before, and in whichever order it takes the items of the request, it ends
up as if it had been told each change by itself. Only the upserts behind a delete of their own id do
not count, for the buffer leaves them out.

What comes in goes through `record`, and what is sent is the request of `flush`.
-/

namespace ClusterFeed

open Sync (SyncError)

/-! ## Items of a request -/

/-- What a request says about one resource. -/
inductive Item where
  /-- The resource exists. -/
  | put (s : Snapshot)
  /-- The resource is gone. -/
  | drop (id : String)
  deriving DecidableEq

namespace Item

/-- The id that the index finds in an item. Of a snapshot it is the one that its fields make. -/
def id : Item → String
  | put s => s.id
  | drop id => id

/-- What the index holds under the id once it has taken the item. -/
def snapshot? : Item → Option Snapshot
  | put s => some s
  | drop _ => none

end Item

/-- The items of a request. -/
def Sync.Request.items (r : Sync.Request) : List Item :=
  r.upserts.map .put ++ r.deletes.map .drop

/-- The item that tells a change by itself. -/
def Change.item? (c : Change) : Option Item :=
  if c.isDelete then some (.drop c.id) else c.data.map .put

/-- The changes that count: a change without id does not, and neither does an upsert that comes
after a delete of its own id. The ids in `gone` were deleted before. -/
def Change.lasting (gone : List String) : List Change → List Change
  | [] => []
  | c :: cs =>
    if c.id = "" then lasting gone cs
    else if c.isDelete then c :: lasting (c.id :: gone) cs
    else if c.id ∈ gone then lasting gone cs
    else c :: lasting gone cs

namespace Index

/-- The index after one item. -/
def take (ix : Index) : Item → Index
  | .put s => ix.insert s.id s
  | .drop id => ix.erase id

/-- The index after items that it takes one after the other. -/
def takeAll (ix : Index) (items : List Item) : Index := items.foldl take ix

theorem getElem?_take (ix : Index) (i : Item) (id : String) :
    (ix.take i)[id]? = if i.id = id then i.snapshot? else ix[id]? := by
  cases i with
  | put s => exact KeyedMap.getElem?_insert_eq ix s.id id s
  | drop id' => exact KeyedMap.getElem?_erase_eq ix id' id

/-- Under each id the last item about it counts. -/
theorem getElem?_takeAll (ix : Index) (items : List Item) (id : String) :
    (ix.takeAll items)[id]? =
      (items.findRev? fun i => decide (i.id = id)).elim ix[id]? Item.snapshot? :=
  KeyedMap.getElem?_foldl (fun ix i => getElem?_take ix i id) items ix

/-- A request that is accepted takes effect like its items, the deletes before the upserts. -/
theorem apply_all (ix : Index) (r : Sync.Request) :
    ix.apply (fun _ => true) r = ix.takeAll (r.deletes.map .drop ++ r.upserts.map .put) := by
  unfold apply takeAll
  rw [List.foldl_append, List.foldl_map, List.foldl_map, List.filter_true, List.filter_true]
  rfl

end Index

/-! ## Changes and the items that tell them -/

namespace Change

variable {c : Change} {cs : List Change}

theorem Built.exists_item (h : c.Built) : ∃ i, c.item? = some i ∧ i.id = c.id := by
  rcases h with ⟨s, rfl⟩ | ⟨i, rfl⟩
  · exact ⟨.put s, rfl, rfl⟩
  · exact ⟨.drop i.id, rfl, rfl⟩

/-- The last item about an id tells the last change of the id. -/
theorem findRev?_filterMap_item? (h : ∀ c ∈ cs, c.Built) (id : String) :
    ((cs.filterMap item?).findRev? fun i => decide (i.id = id)) =
      (cs.findRev? fun c => decide (c.id = id)).bind item? := by
  induction cs with
  | nil => rfl
  | cons c cs ih =>
    have ih := ih fun c hc => h c (List.mem_cons_of_mem _ hc)
    obtain ⟨i, hi, hid⟩ := (h c List.mem_cons_self).exists_item
    rw [List.filterMap_cons_some hi, Itemwise.findRev?_cons, Itemwise.findRev?_cons, ih, hid]
    cases hf : cs.findRev? fun c => decide (c.id = id) with
    | some c' =>
      have hc' := (Itemwise.mem_of_findRev? hf).1
      obtain ⟨i', hi', -⟩ := (h c' (List.mem_cons_of_mem _ hc')).exists_item
      simp [hi']
    | none =>
      by_cases hc : c.id = id
      · simp [hc, hi]
      · simp [hc]

theorem withId_cons_of_ne {id : String} (h : c.id ≠ id) : withId id (c :: cs) = withId id cs := by
  unfold withId
  rw [List.filter_cons_of_neg (by simp [h])]

theorem withId_cons_of_eq (h : c.id ≠ "") : withId c.id (c :: cs) = c :: withId c.id cs := by
  unfold withId
  rw [List.filter_cons_of_pos (by simp [h])]

theorem mem_of_mem_lasting {gone : List String} (h : c ∈ lasting gone cs) :
    c ∈ cs ∧ c.id ≠ "" := by
  induction cs generalizing gone with
  | nil => cases h
  | cons c' cs ih =>
    have hlater : ∀ {gone'}, c ∈ lasting gone' cs → c ∈ c' :: cs ∧ c.id ≠ "" := fun h =>
      ⟨List.mem_cons_of_mem _ (ih h).1, (ih h).2⟩
    unfold lasting at h
    by_cases he : c'.id = ""
    · rw [if_pos he] at h
      exact hlater h
    · have hhere : ∀ {gone'}, c ∈ c' :: lasting gone' cs → c ∈ c' :: cs ∧ c.id ≠ "" := by
        intro gone' h
        rcases List.mem_cons.mp h with rfl | h
        · exact ⟨List.mem_cons_self, he⟩
        · exact hlater h
      rw [if_neg he] at h
      split at h
      · exact hhere h
      · split at h
        · exact hlater h
        · exact hhere h

/-- What waits under an id in the end is the last change of the id that counts. The id was deleted
before just when a delete waits at the beginning. -/
theorem findRev?_lasting {gone : List String} {old : Option Change} {id : String}
    (hgone : id ∈ gone ↔ ∃ d, old = some d ∧ d.isDelete) (hid : id ≠ "") :
    ((lasting gone cs).findRev? fun c => decide (c.id = id)).or old =
      settle old (withId id cs) := by
  induction cs generalizing gone old with
  | nil => rfl
  | cons c cs ih =>
    unfold lasting
    by_cases hc : c.id = id
    · subst hc
      rw [if_neg hid, withId_cons_of_eq hid]
      show _ = settle (some (c.onto old)) (withId c.id cs)
      -- the change counts when it is what waits afterwards
      have hcounts : ∀ gone', c.onto old = c → (c.id ∈ gone' ↔ c.isDelete) →
          ((c :: lasting gone' cs).findRev? fun c' => decide (c'.id = c.id)).or old =
            settle (some (c.onto old)) (withId c.id cs) := by
        intro gone' honto hgone'
        have hrest : ((lasting gone' cs).findRev? fun c' => decide (c'.id = c.id)).or (some c) =
            settle (some c) (withId c.id cs) := ih (by simpa using hgone')
        rw [honto, ← hrest, Itemwise.findRev?_cons, if_pos (decide_eq_true rfl), Option.or_assoc,
          Option.some_or]
      by_cases hd : c.isDelete = true
      · rw [if_pos hd]
        exact hcounts _ (onto_of_isDelete hd old) (by simp [hd])
      · have hu : c.isUpsert = true := isUpsert_of_not_isDelete hd
        rw [if_neg hd]
        by_cases hg : c.id ∈ gone
        · obtain ⟨d, rfl, hdel⟩ := hgone.mp hg
          rw [if_pos hg, onto_isDelete hdel hu]
          exact ih hgone
        · have hold : ∀ d, old = some d → ¬ d.isDelete := fun d h hdel =>
            hg (hgone.mpr ⟨d, h, hdel⟩)
          rw [if_neg hg]
          exact hcounts _ (onto_of_not_isDelete c hold) (by simp [hg, hd])
    · have hskip : ∀ gone', ((c :: lasting gone' cs).findRev? fun c => decide (c.id = id)) =
          (lasting gone' cs).findRev? fun c => decide (c.id = id) := by
        intro gone'
        rw [Itemwise.findRev?_cons, if_neg (by simp [hc]), Option.or_none]
      rw [withId_cons_of_ne hc]
      split
      · exact ih hgone
      · split
        · rw [hskip]
          refine ih ?_
          rw [List.mem_cons, ← hgone]
          exact or_iff_right (Ne.symm hc)
        · split
          · exact ih hgone
          · rw [hskip]
            exact ih hgone

/-- What waits under an id, if nothing waited before: the last delete, and without one the last
upsert. -/
theorem settle_none (cs : List Change) :
    settle none cs = (cs.filter isDelete).getLast?.or (cs.filter isUpsert).getLast? := by
  by_cases hd : ∃ d ∈ cs, d.isDelete
  · rw [settle_of_delete hd]
    obtain ⟨d, hd, hdel⟩ := hd
    have hne := List.ne_nil_of_mem (List.mem_filter.mpr ⟨hd, hdel⟩)
    rw [List.getLast?_eq_some_getLast hne, Option.some_or]
  · have hu : ∀ c ∈ cs, c.isUpsert := fun c hc =>
      isUpsert_of_not_isDelete fun hdel => hd ⟨c, hc, hdel⟩
    have hnone : cs.filter isDelete = [] :=
      List.filter_eq_nil_iff.mpr fun c hc hdel => hd ⟨c, hc, hdel⟩
    rw [settle_upserts (by simp) hu, hnone, List.filter_eq_self.mpr hu, Option.or_none]
    rfl

end Change

/-! ## The items of a batch -/

namespace Pending

/-- What comes in keeps the changes sound; those without id stay outside. -/
theorem Sound.recordAll {b : Buffer} (h : b.pending.Sound) {cs : List Change}
    (hcs : ∀ c ∈ cs, c.id ≠ "" → c.Built) : (b.recordAll cs).pending.Sound := by
  induction cs generalizing b with
  | nil => exact h
  | cons c cs ih =>
    refine ih (b := b.record c) ?_ fun c' hc' => hcs c' (List.mem_cons_of_mem _ hc')
    by_cases he : c.id = ""
    · rw [Buffer.record_pending_of_no_id b he]
      exact h
    · exact h.record (hcs c List.mem_cons_self he)

variable {batch : Pending}

/-- The request that sends a batch has an item for each of its changes. -/
theorem items_perm (batch : Pending) :
    (Buffer.batchRequest batch).items.Perm (batch.values.filterMap Change.item?) := by
  unfold Buffer.batchRequest Sync.Request.items Buffer.batchUpserts Buffer.batchDeletes
  dsimp only
  induction batch.values with
  | nil => exact .refl _
  | cons c cs ih =>
    have hd := c.isDelete_eq_not_isUpsert
    cases hu : c.isUpsert with
    | true =>
      rw [hu] at hd
      cases hdata : c.data with
      | none => simpa [List.filterMap_cons, Change.item?, hu, hd, hdata] using ih
      | some s => simpa [List.filterMap_cons, Change.item?, hu, hd, hdata] using ih
    | false =>
      rw [hu] at hd
      have hmiddle := List.perm_middle.trans (ih.cons (Item.drop c.id))
      simpa [List.filterMap_cons, Change.item?, hu, hd] using hmiddle

/-- The items of a batch are about different ids. -/
theorem Sound.pairwise_items (h : batch.Sound) {items : List Item}
    (hitems : items.Perm (Buffer.batchRequest batch).items) :
    items.Pairwise fun a b => a.id ≠ b.id := by
  have hvalues : batch.values.Pairwise fun a b => a.id ≠ b.id :=
    KeyedMap.pairwise_values Change.id fun id c hc => (h id c hc).1
  have hbuilt : ∀ c ∈ batch.values, c.Built := by
    intro c hc
    obtain ⟨id, hid⟩ := KeyedMap.mem_values.mp hc
    exact (h id c hid).2
  rw [(hitems.trans (items_perm batch)).pairwise_iff fun h => h.symm, List.pairwise_filterMap]
  refine hvalues.imp_of_mem fun {a b} ha hb hab i hi j hj => ?_
  obtain ⟨i', hi', hida⟩ := (hbuilt a ha).exists_item
  obtain ⟨j', hj', hidb⟩ := (hbuilt b hb).exists_item
  cases hi.symm.trans hi'
  cases hj.symm.trans hj'
  rwa [hida, hidb]

/-- The item of a batch about an id tells the change that waited under the id. -/
theorem Sound.findRev?_items (h : batch.Sound) {items : List Item}
    (hitems : items.Perm (Buffer.batchRequest batch).items) (id : String) :
    (items.findRev? fun i => decide (i.id = id)) = batch[id]?.bind Change.item? := by
  have hperm := hitems.trans (items_perm batch)
  ext i
  rw [Itemwise.findRev?_key_eq_some_iff Item.id (h.pairwise_items hitems), hperm.mem_iff,
    List.mem_filterMap, Option.bind_eq_some_iff]
  constructor
  · rintro ⟨⟨c, hc, hi⟩, rfl⟩
    obtain ⟨id, hid⟩ := KeyedMap.mem_values.mp hc
    obtain ⟨hown, hbuilt⟩ := h id c hid
    obtain ⟨i', hi', hid'⟩ := hbuilt.exists_item
    cases hi.symm.trans hi'
    refine ⟨c, ?_, hi⟩
    rw [hid', hown, hid]
  · rintro ⟨c, hc, hi⟩
    obtain ⟨hown, hbuilt⟩ := h id c hc
    obtain ⟨i', hi', hid'⟩ := hbuilt.exists_item
    cases hi.symm.trans hi'
    exact ⟨⟨c, KeyedMap.mem_values.mpr ⟨id, hc⟩, hi⟩, hid'.trans hown⟩

theorem Sound.mem_ids (h : batch.Sound) {id : String} :
    id ∈ (Buffer.batchRequest batch).items.map Item.id ↔ id ∈ batch := by
  have hfound := h.findRev?_items (.refl _) id
  rw [Std.ExtTreeMap.mem_iff_isSome_getElem?, List.mem_map]
  constructor
  · rintro ⟨i, hi, hid⟩
    rw [(Itemwise.findRev?_key_eq_some_iff Item.id (h.pairwise_items (.refl _))).mpr ⟨hi, hid⟩]
      at hfound
    obtain ⟨c, hc, -⟩ := Option.bind_eq_some_iff.mp hfound.symm
    rw [hc]
    rfl
  · intro hs
    obtain ⟨c, hc⟩ := Option.isSome_iff_exists.mp hs
    obtain ⟨i, hi, -⟩ := (h id c hc).2.exists_item
    rw [hc, Option.bind_some, hi] at hfound
    exact ⟨i, (Itemwise.findRev?_key_eq_some_iff Item.id (h.pairwise_items (.refl _))).mp hfound⟩

end Pending

/-! ## The sending after a sequence of changes -/

namespace Buffer

theorem dropped_recordAll (b : Buffer) (cs : List Change) :
    (b.recordAll cs).dropped = b.dropped + cs.countP fun c => c.id = "" := by
  induction cs generalizing b with
  | nil => rfl
  | cons c cs ih =>
    show ((b.record c).recordAll cs).dropped = _
    rw [ih, List.countP_cons]
    unfold record noteDropped
    by_cases hc : c.id = ""
    · simp only [hc, if_true, decide_true]
      omega
    · simp only [hc, if_false, decide_false, Bool.false_eq_true]
      omega

theorem attached_recordAll (b : Buffer) (cs : List Change) :
    (b.recordAll cs).attached = b.attached := by
  induction cs generalizing b with
  | nil => rfl
  | cons c cs ih => exact (ih (b.record c)).trans (record_attached b c)

/-- The requests of a sending: none if nothing waits, and one for all that waits otherwise. -/
theorem sent_flush {b : Buffer} (ha : b.attached = true)
    (outcome : Except SyncError Sync.Response) (during : List Change) :
    (b.flush outcome during).2.1 = if b.pending = ∅ then [] else [batchRequest b.pending] := by
  unfold flush
  by_cases hp : b.pending = ∅
  · rw [startFlush_of_empty hp, if_pos hp]
  · rw [startFlush_of_attached hp ha, if_neg hp]

/-- What the changes `cs` leave in the buffer `b`. -/
structure Coalesces (b : Buffer) (cs : List Change) : Prop where
  /-- A change waits under each id of the changes, and nowhere else. -/
  ids (id : String) : id ∈ (b.recordAll cs).pending ↔ id ≠ "" ∧ ∃ c ∈ cs, c.id = id
  /-- It is the last delete of the id, and if there is none the last upsert. -/
  entry (id : String) : id ≠ "" → (b.recordAll cs).pending[id]? =
    (cs.filter fun c => c.id = id ∧ c.isDelete).getLast?.or
      (cs.filter fun c => c.id = id ∧ c.isUpsert).getLast?
  /-- Sequences with the same changes of an id leave the same under it. -/
  own (cs' : List Change) (id : String) :
    (cs'.filter fun c => c.id = id) = (cs.filter fun c => c.id = id) →
      (b.recordAll cs').pending[id]? = (b.recordAll cs).pending[id]?
  /-- The changes without id are dropped. -/
  dropped : (b.recordAll cs).dropped = b.dropped + cs.countP fun c => c.id = ""
  /-- Under which ids something waits and how many changes were dropped does not depend on the
  order of the changes. -/
  anyOrder (cs' : List Change) : cs'.Perm cs →
    (∀ id, id ∈ (b.recordAll cs').pending ↔ id ∈ (b.recordAll cs).pending) ∧
      (b.recordAll cs').dropped = (b.recordAll cs).dropped

/-- What is sent of the changes `cs` in the buffer `b`. -/
structure SendsAll (b : Buffer) (cs : List Change) (sent : List Sync.Request) : Prop where
  /-- There is at most one request. -/
  single : sent.length ≤ 1
  /-- It has one item for each id under which something waits. -/
  once (id : String) : ((sent.flatMap Sync.Request.items).map Item.id).count id =
    if id ∈ (b.recordAll cs).pending then 1 else 0
  /-- No id is both among its upserts and among its deletes. -/
  apart : ∀ r ∈ sent, ∀ s ∈ r.upserts, s.id ∉ r.deletes
  /-- Its items, in any order, take an index to where the changes that count take it one by one, -/
  faithful (items : List Item) : items.Perm (sent.flatMap Sync.Request.items) → ∀ ix : Index,
    ix.takeAll items = ix.takeAll ((Change.lasting [] cs).filterMap Change.item?)
  /-- and so does the request when it is accepted. -/
  accepted : ∀ r ∈ sent, ∀ ix : Index, ix.apply (fun _ => true) r =
    ix.takeAll ((Change.lasting [] cs).filterMap Change.item?)

section

variable {b : Buffer} {cs : List Change}

theorem getElem?_recordAll_of_empty (hb : b.pending = ∅) (cs : List Change) (id : String) :
    (b.recordAll cs).pending[id]? = Change.settle none (Change.withId id cs) := by
  rw [getElem?_recordAll, hb, Std.ExtTreeMap.getElem?_empty]

theorem mem_recordAll_of_empty (hb : b.pending = ∅) (cs : List Change) (id : String) :
    id ∈ (b.recordAll cs).pending ↔ id ≠ "" ∧ ∃ c ∈ cs, c.id = id := by
  have hsettled : (Change.settle none (Change.withId id cs)).isSome ↔
      Change.withId id cs ≠ [] := by
    cases Change.withId id cs using List.reverseRecOn with
    | nil => simp [Change.settle]
    | append_singleton cs c => simp [Change.settle_concat]
  rw [Std.ExtTreeMap.mem_iff_isSome_getElem?, getElem?_recordAll_of_empty hb, hsettled]
  unfold Change.withId
  rw [ne_eq, List.filter_eq_nil_iff]
  simp only [decide_eq_true_eq, not_forall, not_not, exists_prop]
  constructor
  · rintro ⟨c, hc, rfl, hid⟩
    exact ⟨hid, c, hc, rfl⟩
  · rintro ⟨hid, c, hc, rfl⟩
    exact ⟨c, hc, rfl, hid⟩

/-- The items of a sending are those of the batch, also when there is nothing to send. -/
theorem items_sent (ha : b.attached = true) (outcome : Except SyncError Sync.Response)
    (during : List Change) :
    (b.flush outcome during).2.1.flatMap Sync.Request.items = (batchRequest b.pending).items := by
  rw [sent_flush ha]
  split
  · rename_i hp
    rw [hp]
    rfl
  · simp

/-- One item about an id in a batch stands for all changes of the id that came in. -/
theorem takeAll_batch (hb : b.pending = ∅) (hcs : ∀ c ∈ cs, c.id ≠ "" → c.Built)
    {items : List Item} (hitems : items.Perm (batchRequest (b.recordAll cs).pending).items)
    (ix : Index) :
    ix.takeAll items = ix.takeAll ((Change.lasting [] cs).filterMap Change.item?) := by
  have hsound : (b.recordAll cs).pending.Sound := by
    refine Pending.Sound.recordAll ?_ hcs
    rw [hb]
    exact Pending.sound_empty
  have hlasting : ∀ c ∈ Change.lasting [] cs, c.Built := by
    intro c hc
    obtain ⟨hmem, hid⟩ := Change.mem_of_mem_lasting hc
    exact hcs c hmem hid
  ext id : 1
  have hsame : (items.findRev? fun i => decide (i.id = id)) =
      ((Change.lasting [] cs).filterMap Change.item?).findRev? fun i => decide (i.id = id) := by
    rw [hsound.findRev?_items hitems, Change.findRev?_filterMap_item? hlasting,
      getElem?_recordAll_of_empty hb]
    by_cases hid : id = ""
    · have hnone : ((Change.lasting [] cs).findRev? fun c => decide (c.id = id)) = none :=
        Itemwise.findRev?_eq_none_iff.mpr fun c hc h =>
          (Change.mem_of_mem_lasting hc).2 ((of_decide_eq_true h).trans hid)
      have hwithout : Change.withId id cs = [] := by
        unfold Change.withId
        simp [hid]
      rw [hnone, hwithout]
      rfl
    · have hnew : id ∈ ([] : List String) ↔ ∃ d : Change, none = some d ∧ d.isDelete := by simp
      rw [← Change.findRev?_lasting hnew hid, Option.or_none]
  rw [Index.getElem?_takeAll, Index.getElem?_takeAll, hsame]

theorem coalesces_of_empty (hb : b.pending = ∅) (cs : List Change) : b.Coalesces cs := by
  refine ⟨mem_recordAll_of_empty hb cs, fun id hid => ?_, fun cs' id h => ?_,
    dropped_recordAll b cs, fun cs' h => ⟨fun id => ?_, ?_⟩⟩
  · have hwith : Change.withId id cs = cs.filter fun c => c.id = id := by
      unfold Change.withId
      simp [hid]
    rw [getElem?_recordAll_of_empty hb, Change.settle_none, hwith, List.filter_filter,
      List.filter_filter]
    simp only [Bool.decide_and, Bool.decide_eq_true, Bool.and_comm]
  · have hwith : ∀ cs : List Change, Change.withId id cs =
        (cs.filter fun c => c.id = id).filter fun _ => id ≠ "" := by
      intro cs
      unfold Change.withId
      rw [List.filter_filter]
      simp only [Bool.decide_and, Bool.and_comm]
    rw [getElem?_recordAll, getElem?_recordAll, hwith, hwith, h]
  · rw [mem_recordAll_of_empty hb, mem_recordAll_of_empty hb]
    simp only [h.mem_iff]
  · rw [dropped_recordAll, dropped_recordAll, h.countP_eq]

theorem sendsAll_of_empty (hb : b.pending = ∅) (ha : b.attached = true)
    (hcs : ∀ c ∈ cs, c.id ≠ "" → c.Built) (outcome : Except SyncError Sync.Response)
    (during : List Change) : b.SendsAll cs ((b.recordAll cs).flush outcome during).2.1 := by
  have hattached : (b.recordAll cs).attached = true := by
    rw [attached_recordAll, ha]
  have hsound : (b.recordAll cs).pending.Sound := by
    refine Pending.Sound.recordAll ?_ hcs
    rw [hb]
    exact Pending.sound_empty
  have hrequest : ∀ r ∈ ((b.recordAll cs).flush outcome during).2.1,
      r = batchRequest (b.recordAll cs).pending := by
    intro r hr
    rw [sent_flush hattached] at hr
    split at hr
    · cases hr
    · exact List.mem_singleton.mp hr
  refine ⟨?_, fun id => ?_, fun r hr s hs hd => ?_, fun items hitems ix => ?_, fun r hr ix => ?_⟩
  · rw [sent_flush hattached]
    split
    · simp
    · simp
  · rw [items_sent hattached]
    have hnodup : ((batchRequest (b.recordAll cs).pending).items.map Item.id).Nodup :=
      List.pairwise_map.mpr (hsound.pairwise_items (.refl _))
    have hmem : id ∈ (batchRequest (b.recordAll cs).pending).items.map Item.id ↔
        id ∈ (b.recordAll cs).pending := hsound.mem_ids
    rw [List.Nodup.count hnodup]
    simp only [hmem]
  · rw [hrequest r hr] at hs hd
    obtain ⟨c, hc, hdel⟩ := (Index.mem_batchDeletes hsound).mp hd
    rw [(Index.mem_batchUpserts hsound).mp hs] at hc
    cases hc
    cases hdel
  · rw [items_sent hattached] at hitems
    exact takeAll_batch hb hcs hitems ix
  · rw [hrequest r hr, Index.apply_all]
    exact takeAll_batch hb hcs List.perm_append_comm ix

/-- Changes that come into an empty buffer are coalesced, in whatever order they come: one for each
id waits and is sent, and an index cannot tell the request from the changes. -/
theorem coalescing_is_faithful (b : Buffer) (cs : List Change) (hb : b.pending = ∅)
    (hcs : ∀ c ∈ cs, c.id ≠ "" → c.Built) :
    b.Coalesces cs ∧ (b.attached = true → ∀ outcome during,
      b.SendsAll cs ((b.recordAll cs).flush outcome during).2.1) :=
  ⟨coalesces_of_empty hb cs, fun ha => sendsAll_of_empty hb ha hcs⟩

end

/-- Changes of two resources in turn, an upsert behind a delete among them, and a change without
id. -/
def variedChanges : List Change :=
  [.upsert ⟨"a", "default", "Pod", "v1", ∅, ∅, ⟨1, 0⟩⟩,
    .upsert ⟨"b", "default", "Pod", "v1", ∅, ∅, ⟨2, 0⟩⟩,
    .delete ⟨"default", "v1", "Pod", "a"⟩,
    ⟨.delete, "", none, none⟩,
    .upsert ⟨"b", "default", "Pod", "v1", ∅, ∅, ⟨3, 0⟩⟩,
    .upsert ⟨"a", "default", "Pod", "v1", ∅, ∅, ⟨4, 0⟩⟩]

theorem coalescing_of_variedChanges :
    (∀ c ∈ variedChanges, c.id ≠ "" → c.Built) ∧ (new ⟨0⟩ true).Coalesces variedChanges ∧
      (new ⟨0⟩ true).SendsAll variedChanges
        (((new ⟨0⟩ true).recordAll variedChanges).flush (.error (.status 500 "boom")) []).2.1 := by
  have hbuilt : ∀ c ∈ variedChanges, c.id ≠ "" → c.Built := by
    intro c hc hid
    simp only [variedChanges, List.mem_cons, List.not_mem_nil, or_false] at hc
    rcases hc with rfl | rfl | rfl | rfl | rfl | rfl
    · exact .inl ⟨_, rfl⟩
    · exact .inl ⟨_, rfl⟩
    · exact .inr ⟨_, rfl⟩
    · exact absurd rfl hid
    · exact .inl ⟨_, rfl⟩
    · exact .inl ⟨_, rfl⟩
  have hfaithful := coalescing_is_faithful (new ⟨0⟩ true) variedChanges rfl hbuilt
  exact ⟨hbuilt, hfaithful.1, hfaithful.2 rfl _ _⟩

end Buffer

end ClusterFeed
