import ClusterFeed.Watch.Relay
import ClusterFeed.Proofs.Cluster.Portrait
import ClusterFeed.Proofs.Watch.Objects

/-!
# Watches of twins

Two clusters whose objects are twins of each other are watched. What is reported of them and what
gets into the queue is the same, apart from the times at which it was looked at.

The reports are those of `dispatch`, taken by a forwarder.
-/

namespace ClusterFeed

open Time (Instant)

namespace Snapshot

/-- The snapshot without its time. -/
def timeless (s : Snapshot) : Snapshot := { s with timestamp := ⟨0, 0⟩ }

end Snapshot

namespace Change

/-- The change without the time of its snapshot. -/
def timeless (ch : Change) : Change := { ch with data := ch.data.map Snapshot.timeless }

end Change

open Cluster (Manifest Key)

namespace Cluster.Manifest

variable {w : WatchedType}

theorem map_timeless_told? (now : Instant) (m : Manifest) :
    (m.told? w now).map Snapshot.timeless = m.told? w ⟨0, 0⟩ := by
  unfold told?
  rw [Option.map_map]
  rfl

end Cluster.Manifest

namespace Watch

variable {w : WatchedType} {cache cache' : Cache}

/-! ## From the watch to the reports -/

/-- The events tell the same about twins. -/
inductive Event.Twin : Event → Event → Prop
  | applied {m m' : Manifest} (h : m.Twin m') : Twin (.applied m) (.applied m')
  | deleted {m m' : Manifest} (h : m.Twin m') : Twin (.deleted m) (.deleted m')
  | restarted {ms ms' : List Manifest} (h : List.Forall₂ Manifest.Twin ms ms') :
      Twin (.restarted ms) (.restarted ms')

/-- The reports tell the same about twins. -/
inductive Callback.Twin : Callback → Callback → Prop
  | add {m m' : Manifest} (h : m.Twin m') : Twin (.add m) (.add m')
  | update {old old' new new' : Manifest} (hold : old.Twin old') (hnew : new.Twin new') :
      Twin (.update old new) (.update old' new')
  | delete {m m' : Manifest} (h : m.Twin m') : Twin (.delete m) (.delete m')

/-- The caches hold twins under each key. -/
def Cache.Twin (cache cache' : Cache) : Prop :=
  ∀ k : Key, Option.Rel Manifest.Twin cache[k]? cache'[k]?

namespace Cache

theorem twin_empty : Twin ∅ ∅ := by
  intro k
  rw [Std.ExtTreeMap.getElem?_empty]
  exact .none

theorem Twin.insert (h : cache.Twin cache') (k : Key) {m m' : Manifest} (hm : m.Twin m') :
    Cache.Twin (cache.insert k m) (cache'.insert k m') := by
  intro k'
  rw [KeyedMap.getElem?_insert_eq, KeyedMap.getElem?_insert_eq]
  split
  · exact .some hm
  · exact h k'

theorem Twin.erase (h : cache.Twin cache') (k : Key) :
    Cache.Twin (cache.erase k) (cache'.erase k) := by
  intro k'
  rw [KeyedMap.getElem?_erase_eq, KeyedMap.getElem?_erase_eq]
  split
  · exact .none
  · exact h k'

theorem Twin.find? (h : cache.Twin cache') (k : Key) :
    Option.Rel Manifest.Twin (cache.find? k) (cache'.find? k) := by
  have hk := h k
  unfold Cache.find?
  generalize cache[k]? = v, cache'[k]? = v' at hk ⊢
  cases hk with
  | none => exact h _
  | some hm => exact .some hm

theorem Twin.report (h : cache.Twin cache') (k : Key) {m m' : Manifest} (hm : m.Twin m') :
    (cache.report k m).Twin (cache'.report k m') := by
  have hk := h.find? k
  unfold Cache.report
  generalize cache.find? k = v, cache'.find? k = v' at hk ⊢
  cases hk with
  | none => exact .add hm
  | some hold => exact .update hold hm

theorem Twin.missing (h : cache.Twin cache') (keys : List Key) :
    List.Forall₂ Manifest.Twin (cache.missing keys) (cache'.missing keys) := by
  refine KeyedMap.forall₂_values fun k => ?_
  have hk := h k
  rw [Std.ExtTreeMap.getElem?_filter', Std.ExtTreeMap.getElem?_filter']
  generalize cache[k]? = v, cache'[k]? = v' at hk ⊢
  cases hk with
  | none => exact .none
  | some hm =>
    rw [Option.filter_some, Option.filter_some]
    split
    · exact .some hm
    · exact .none

/-- Entries that hold twins under the same key. -/
def EntryTwin (e e' : Key × Manifest) : Prop := e.1 = e'.1 ∧ e.2.Twin e'.2

theorem keyed?_cons (m : Manifest) (ms : List Manifest) :
    keyed? (m :: ms) = m.key?.bind fun k => (keyed? ms).map ((k, m) :: ·) := by
  unfold keyed?
  rw [List.mapM_cons]
  cases m.key? with
  | none => rfl
  | some k =>
    cases ms.mapM fun m => m.key?.map (·, m) <;> rfl

theorem keyed?_twin {ms ms' : List Manifest} (h : List.Forall₂ Manifest.Twin ms ms') :
    Option.Rel (List.Forall₂ EntryTwin) (keyed? ms) (keyed? ms') := by
  induction h with
  | nil => exact .some .nil
  | @cons m m' ms ms' hm _ ih =>
    rw [keyed?_cons, keyed?_cons, hm.key?_eq]
    cases m'.key? with
    | none => exact .none
    | some k =>
      generalize keyed? ms = es, keyed? ms' = es' at ih ⊢
      cases ih with
      | none => exact .none
      | some hes => exact .some (.cons ⟨rfl, hm⟩ hes)

theorem twin_ofList {es es' : List (Key × Manifest)} (h : List.Forall₂ EntryTwin es es') :
    (ofList es).Twin (ofList es') := by
  refine List.rel_foldl (fun cache cache' hc e e' he => ?_) twin_empty h
  obtain ⟨hkey, hm⟩ := he
  rw [hkey]
  exact hc.insert _ hm

end Cache

/-- From caches of twins, events on twins have the same outcome. -/
theorem dispatch?_twin (h : cache.Twin cache') {e e' : Event} (he : e.Twin e') :
    Option.Rel (fun r r' => List.Forall₂ Callback.Twin r.1 r'.1 ∧ r.2.Twin r'.2)
      (dispatch? cache e) (dispatch? cache' e') := by
  cases he with
  | @applied m m' hm =>
    simp only [dispatch?]
    rw [hm.key?_eq]
    cases m'.key? with
    | none => exact .none
    | some k => exact .some ⟨.cons (h.report k hm) .nil, h.insert k hm⟩
  | @deleted m m' hm =>
    simp only [dispatch?]
    rw [hm.key?_eq]
    cases m'.key? with
    | none => exact .none
    | some k => exact .some ⟨.cons (.delete hm) .nil, h.erase k⟩
  | @restarted ms ms' hms =>
    have hkeyed := Cache.keyed?_twin hms
    simp only [dispatch?]
    generalize Cache.keyed? ms = es?, Cache.keyed? ms' = es?' at hkeyed ⊢
    cases hkeyed with
    | none => exact .none
    | @some es es' hes =>
      have hkeys : es.map (·.1) = es'.map (·.1) := by
        rw [← List.forall₂_eq_eq_eq]
        exact List.rel_map (fun e e' he => he.1) hes
      have hgone : List.Forall₂ Callback.Twin ((cache.missing (es.map (·.1))).map .delete)
          ((cache'.missing (es'.map (·.1))).map .delete) := by
        rw [hkeys]
        exact List.rel_map (fun m m' hm => .delete hm) (h.missing _)
      have hlisted : List.Forall₂ Callback.Twin (es.map fun e => cache.report e.1 e.2)
          (es'.map fun e => cache'.report e.1 e.2) := by
        refine List.rel_map (fun e e' he => ?_) hes
        obtain ⟨hkey, hm⟩ := he
        rw [hkey]
        exact h.report _ hm
      exact .some ⟨List.rel_append hgone hlisted, Cache.twin_ofList hes⟩

/-! ## From the reports into the queue -/

/-- The report is on plain objects. -/
def Callback.Plain : Callback → Prop
  | .add m => m.Plain
  | .update old new => old.Plain ∧ new.Plain
  | .delete m => m.Plain

/-- The change that is made of a report on plain objects; none when the labels stay the same. -/
def Callback.portrait? (w : WatchedType) (now : Instant) : Callback → Option Change
  | .add m => some (.upsert (m.portrait w now))
  | .update old new =>
    if (old.portrait w now).labels != (new.portrait w now).labels then
      some (.upsert (new.portrait w now))
    else none
  | .delete m => some (.delete (m.portrait w now).identifier)

namespace Inlet

variable {i i' : Inlet}

/-- The queue without the times of its changes. -/
def timeless (i : Inlet) : Inlet :=
  { i with intake := { i.intake with items := i.intake.items.map Change.timeless } }

theorem timeless_offer (i : Inlet) (ch : Change) :
    (i.offer ch).timeless = i.timeless.offer ch.timeless := by
  unfold offer Intake.offer? timeless
  simp only [List.length_map]
  split <;> rename_i hoffer <;> split at hoffer
  · cases hoffer
    rename_i hroom
    rw [if_pos hroom]
    simp
  · cases hoffer
  · cases hoffer
  · rename_i hroom
    rw [if_neg hroom]
    rfl

theorem take_add (now : Instant) (i : Inlet) (m : Manifest) :
    i.take w now (.add m) = match m.told? w now with
      | some s => i.offer (.upsert s)
      | none => i.drop 1 := by
  unfold Manifest.told?
  cases hm : m.filled? w <;> simp only [take, hm, Option.map]

theorem take_update (now : Instant) (i : Inlet) (old new : Manifest) :
    i.take w now (.update old new) = match old.told? w now, new.told? w now with
      | some o, some n => if o.labels != n.labels then i.offer (.upsert n) else i
      | none, none => i.drop 2
      | _, _ => i.drop 1 := by
  unfold Manifest.told?
  cases hold : old.filled? w <;> cases hnew : new.filled? w <;>
    simp only [take, hold, hnew, Option.map]
  rfl

theorem take_delete (now : Instant) (i : Inlet) (m : Manifest) :
    i.take w now (.delete m) = match m.told? w now with
      | some s => i.offer (.delete s.identifier)
      | none => i.drop 1 := by
  unfold Manifest.told?
  cases hm : m.filled? w <;> simp only [take, hm, Option.map, Object.identifier_snapshot]

/-- Of reports on plain objects nothing but portraits gets into the queue. -/
theorem take_of_plain (now : Instant) (i : Inlet) {cb : Callback} (h : cb.Plain) :
    i.take w now cb = ((cb.portrait? w now).map i.offer).getD i := by
  cases cb with
  | add m =>
    have hm : m.Plain := h
    rw [take_add, hm.told?_eq]
    rfl
  | update old new =>
    obtain ⟨hold, hnew⟩ : old.Plain ∧ new.Plain := h
    rw [take_update, hold.told?_eq, hnew.told?_eq]
    unfold Callback.portrait?
    by_cases hlabels : ((old.portrait w now).labels != (new.portrait w now).labels) = true
    · simp only [hlabels, if_true, Option.map_some, Option.getD_some]
    · simp only [hlabels]
      rfl
  | delete m =>
    have hm : m.Plain := h
    rw [take_delete, hm.told?_eq]
    rfl

theorem take_twin (now : Instant) (i : Inlet) {cb cb' : Callback} (h : cb.Twin cb') :
    i.take w now cb = i.take w now cb' := by
  cases h with
  | add h => rw [take_add, take_add, h.told?_eq]
  | update hold hnew => rw [take_update, take_update, hold.told?_eq, hnew.told?_eq]
  | delete h => rw [take_delete, take_delete, h.told?_eq]

/-- A report is taken at any time as it would be taken at the first one. -/
theorem timeless_take (now : Instant) (i : Inlet) (cb : Callback) :
    (i.take w now cb).timeless = i.timeless.take w ⟨0, 0⟩ cb := by
  cases cb with
  | add m =>
    rw [take_add, take_add, ← m.map_timeless_told? now]
    cases m.told? w now with
    | none => rfl
    | some s => exact timeless_offer i (.upsert s)
  | update old new =>
    rw [take_update, take_update, ← old.map_timeless_told? now, ← new.map_timeless_told? now]
    cases old.told? w now with
    | none => cases new.told? w now <;> rfl
    | some o =>
      cases new.told? w now with
      | none => rfl
      | some n =>
        by_cases hlabels : (o.labels != n.labels) = true
        · simp only [Option.map_some, Snapshot.timeless, hlabels, if_true]
          exact timeless_offer i (.upsert n)
        · simp [Snapshot.timeless, hlabels]
  | delete m =>
    rw [take_delete, take_delete, ← m.map_timeless_told? now]
    cases m.told? w now with
    | none => rfl
    | some s => exact timeless_offer i (.delete s.identifier)

/-- Reports on twins do the same to the queue, apart from the time. -/
theorem timeless_take_eq (h : i.timeless = i'.timeless) {cb cb' : Callback} (hcb : cb.Twin cb')
    (now now' : Instant) : (i.take w now cb).timeless = (i'.take w now' cb').timeless := by
  rw [timeless_take, timeless_take, h, take_twin _ _ hcb]

theorem timeless_takeAll_eq (h : i.timeless = i'.timeless) {cs cs' : List Callback}
    (hcs : List.Forall₂ Callback.Twin cs cs') (now now' : Instant) :
    (i.takeAll w now cs).timeless = (i'.takeAll w now' cs').timeless := by
  induction hcs generalizing i i' with
  | nil => exact h
  | cons hcb _ ih => exact ih (timeless_take_eq h hcb now now')

end Inlet

/-! ## From the watch into the queue -/

namespace Relay

/-- The relays have seen twins and have the same changes in their queues, apart from the time. -/
structure Twin (r r' : Relay) : Prop where
  resource : r.resource = r'.resource
  cache : r.cache.Twin r'.cache
  inlet : r.inlet.timeless = r'.inlet.timeless

/-- Events one after the other, each at a time of its own; none when an object has no name. -/
def run? (r : Relay) (es : List (Instant × Event)) : Option Relay :=
  es.foldlM (fun r e => (r.handle? e.1 e.2).map Prod.snd) r

theorem twin_new (w : WatchedType) (capacity : Nat) : (new w capacity).Twin (new w capacity) :=
  ⟨rfl, Cache.twin_empty, rfl⟩

theorem Twin.handle? {r r' : Relay} (h : r.Twin r') (now now' : Instant) {e e' : Event}
    (he : e.Twin e') :
    Option.Rel Twin ((r.handle? now e).map Prod.snd) ((r'.handle? now' e').map Prod.snd) := by
  have hdispatched := dispatch?_twin h.cache he
  unfold Relay.handle?
  generalize dispatch? r.cache e = out, dispatch? r'.cache e' = out' at hdispatched ⊢
  cases hdispatched with
  | none => exact .none
  | some hout =>
    refine .some ⟨h.resource, hout.2, ?_⟩
    rw [h.resource]
    exact Inlet.timeless_takeAll_eq h.inlet hout.1 now now'

/-- Relays that hear the same about twins stay twins. -/
theorem Twin.run? {es es' : List (Instant × Event)}
    (hes : List.Forall₂ (fun e e' => e.2.Twin e'.2) es es') {r r' : Relay} (h : r.Twin r') :
    Option.Rel Twin (r.run? es) (r'.run? es') := by
  induction hes generalizing r r' with
  | nil => exact .some h
  | @cons e e' es es' he _ ih =>
    have hstep := h.handle? e.1 e'.1 he
    unfold Relay.run?
    rw [List.foldlM_cons, List.foldlM_cons]
    generalize (r.handle? e.1 e.2).map Prod.snd = out,
      (r'.handle? e'.1 e'.2).map Prod.snd = out' at hstep ⊢
    cases hstep with
    | none => exact .none
    | some hnext => exact ih hnext

end Relay

end Watch

end ClusterFeed
