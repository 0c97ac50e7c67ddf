import ClusterFeed.Proofs.Watch.Objects

/-!
# What an event reports

When all objects of a type are proper, a cache holds each of them under its own key, and what an
event reports is just how the cache changes. The changes that are made of the reports tell, for each
object they are about, what the cache holds after the event; an object of which no change is made
looks to the index as it did before.

The events are those of `dispatch`.
-/

namespace ClusterFeed.Watch

open Cluster (Manifest Key)
open Time (Instant)

variable {w : WatchedType} {namespaced : Bool} {cache cache' : Cache} {now : Instant}

/-- The event is about proper objects only, and a list names no key twice. -/
def Event.Fits (w : WatchedType) (namespaced : Bool) : Event → Prop
  | .applied m => Watch.Fits w namespaced m
  | .deleted m => Watch.Fits w namespaced m
  | .restarted ms =>
    (∀ m ∈ ms, Watch.Fits w namespaced m) ∧ ms.Pairwise fun m m' => m.key? ≠ m'.key?

/-- Each object of the cache is proper and is under its own key. -/
def Cache.WellKept (w : WatchedType) (namespaced : Bool) (cache : Cache) : Prop :=
  ∀ (k : Key) (m : Manifest), cache[k]? = some m → m.key? = some k ∧ Watch.Fits w namespaced m

theorem wellKept_empty : Cache.WellKept w namespaced ∅ := by
  intro k m h
  simp at h

theorem Cache.WellKept.insert (h : cache.WellKept w namespaced) {k : Key} {m : Manifest}
    (hk : m.key? = some k) (hm : Watch.Fits w namespaced m) :
    Cache.WellKept w namespaced (cache.insert k m) := by
  intro k' m' h'
  rw [KeyedMap.getElem?_insert_eq] at h'
  split at h'
  · cases h'
    rename_i heq
    exact ⟨heq ▸ hk, hm⟩
  · exact h k' m' h'

theorem Cache.WellKept.erase (h : cache.WellKept w namespaced) (k : Key) :
    Cache.WellKept w namespaced (cache.erase k) := by
  intro k' m' h'
  rw [KeyedMap.getElem?_erase_eq] at h'
  split at h'
  · cases h'
  · exact h k' m' h'

/-- When either all objects have a namespace or none has, the search without the namespace finds
nothing new. -/
theorem Cache.find?_of_scoped {k : Key}
    (h : ∀ (k' : Key) (m : Manifest), cache[k']? = some m → k'.scope.isSome = k.scope.isSome) :
    cache.find? k = cache[k]? := by
  unfold Cache.find?
  cases hc : cache[k]? with
  | some m => rfl
  | none =>
    show cache[(⟨none, k.name⟩ : Key)]? = none
    cases hn : cache[(⟨none, k.name⟩ : Key)]? with
    | none => rfl
    | some m =>
      have hnone : k.scope = none := by simpa using (h _ m hn).symm
      obtain ⟨scope, name⟩ := k
      cases hnone
      exact hn.symm.trans hc

theorem isSome_scope_of_isProper {k : Key} (h : IsProper namespaced k) :
    k.scope.isSome = namespaced := by
  unfold IsProper at h
  cases namespaced with
  | true =>
    obtain ⟨ns, hns, -⟩ := h
    rw [hns]
    rfl
  | false =>
    rw [show k.scope = none from h]
    rfl

/-- Under a proper key the cache is never searched without the namespace. -/
theorem Cache.WellKept.find? (h : cache.WellKept w namespaced) {k : Key}
    (hk : IsProper namespaced k) : cache.find? k = cache[k]? := by
  refine Cache.find?_of_scoped fun k' m hm => ?_
  obtain ⟨hkey, hfits⟩ := h k' m hm
  rw [isSome_scope_of_isProper (hfits.isProper hkey), isSome_scope_of_isProper hk]

/-! ## Lists of objects -/

/-- The entries of a list: each of its objects under its key. -/
theorem mem_of_keyed? {ms : List Manifest} {es : List (Key × Manifest)}
    (h : Cache.keyed? ms = some es) {k : Key} {m : Manifest} :
    (k, m) ∈ es ↔ m ∈ ms ∧ m.key? = some k := by
  have hall := Itemwise.mapM_eq_some_iff.mp h
  clear h
  induction hall with
  | nil => simp
  | cons he _ ih =>
    obtain ⟨k', hk', rfl⟩ := Option.map_eq_some_iff.mp he
    rw [List.mem_cons, List.mem_cons]
    constructor
    · rintro (heq | hmem)
      · cases heq
        exact ⟨.inl rfl, hk'⟩
      · obtain ⟨hm, hk⟩ := ih.mp hmem
        exact ⟨.inr hm, hk⟩
    · rintro ⟨rfl | hm, hk⟩
      · rw [hk'] at hk
        cases hk
        exact .inl rfl
      · exact .inr (ih.mpr ⟨hm, hk⟩)

theorem pairwise_keyed? {ms : List Manifest} {es : List (Key × Manifest)}
    (h : Cache.keyed? ms = some es) (hms : ms.Pairwise fun m m' => m.key? ≠ m'.key?) :
    es.Pairwise fun e e' => e.1 ≠ e'.1 := by
  have hall := Itemwise.mapM_eq_some_iff.mp h
  clear h
  have hkeys : es.map (fun e => some e.1) = ms.map Manifest.key? := by
    clear hms
    induction hall with
    | nil => rfl
    | cons he _ ih =>
      obtain ⟨k', hk', rfl⟩ := Option.map_eq_some_iff.mp he
      rw [List.map_cons, List.map_cons, ih, hk']
  have hpair := List.pairwise_map.mpr hms
  rw [← hkeys, List.pairwise_map] at hpair
  exact hpair.imp fun hab heq => hab (congrArg some heq)

theorem getElem?_ofList {ms : List Manifest} {es : List (Key × Manifest)}
    (h : Cache.keyed? ms = some es) (hms : ms.Pairwise fun m m' => m.key? ≠ m'.key?) {k : Key}
    {m : Manifest} : (Cache.ofList es)[k]? = some m ↔ (k, m) ∈ es :=
  KeyedMap.getElem?_ofEntries (pairwise_keyed? h hms)

theorem mem_missing {keys : List Key} {m : Manifest} :
    m ∈ cache.missing keys ↔ ∃ k, cache[k]? = some m ∧ k ∉ keys := by
  unfold Cache.missing
  rw [KeyedMap.mem_values]
  refine exists_congr fun k => ?_
  rw [Std.ExtTreeMap.getElem?_filter']
  cases cache[k]? with
  | none => simp
  | some m' =>
    rw [Option.filter_eq_some_iff]
    simp

/-! ## Events -/

/-- What an event of objects with names reports, and the cache after it. -/
inductive Dispatched (cache : Cache) : Event → List Callback → Cache → Prop
  | applied {m : Manifest} {k : Key} (hk : m.key? = some k) :
      Dispatched cache (.applied m) [cache.report k m] (cache.insert k m)
  | deleted {m : Manifest} {k : Key} (hk : m.key? = some k) :
      Dispatched cache (.deleted m) [.delete m] (cache.erase k)
  /-- The objects that are missing from the list are reported before those in it. -/
  | restarted {ms : List Manifest} {es : List (Key × Manifest)} (hes : Cache.keyed? ms = some es) :
      Dispatched cache (.restarted ms)
        ((cache.missing (es.map (·.1))).map Callback.delete ++
          es.map fun e => cache.report e.1 e.2) (Cache.ofList es)

/-- There is nothing else that an event can do. -/
theorem dispatched {e : Event} {cs : List Callback} (h : dispatch? cache e = some (cs, cache')) :
    Dispatched cache e cs cache' := by
  cases e with
  | applied m =>
    obtain ⟨k, hk, heq⟩ := Option.map_eq_some_iff.mp h
    cases heq
    exact .applied hk
  | deleted m =>
    obtain ⟨k, hk, heq⟩ := Option.map_eq_some_iff.mp h
    cases heq
    exact .deleted hk
  | restarted ms =>
    obtain ⟨es, hes, heq⟩ := Option.map_eq_some_iff.mp h
    cases heq
    exact .restarted hes

/-- After an event on proper objects the cache is well kept. -/
theorem wellKept_of_dispatch (h : cache.WellKept w namespaced) {e : Event}
    (he : e.Fits w namespaced) {cs : List Callback} (hd : dispatch? cache e = some (cs, cache')) :
    cache'.WellKept w namespaced := by
  cases dispatched hd with
  | applied hk => exact h.insert hk he
  | deleted hk => exact h.erase _
  | restarted hes =>
    intro k m hm
    obtain ⟨hmem, hk⟩ := (mem_of_keyed? hes).mp ((getElem?_ofList hes he.2).mp hm)
    exact ⟨hk, he.1 m hmem⟩

/-! ## Changes -/

/-- The change that is made of a report. -/
def Callback.change? (w : WatchedType) (now : Instant) : Callback → Option Change
  | .add m => (m.filled? w).map fun j => .upsert (Object.snapshot now j)
  | .update old new =>
    match old.filled? w, new.filled? w with
    | some o, some n =>
      if Object.isRelevant o n then some (.upsert (Object.snapshot now n)) else none
    | _, _ => none
  | .delete m => (m.filled? w).map fun j => .delete (Object.identifier j)

theorem change?_update {old new : Manifest} {o n : Json} (ho : old.filled? w = some o)
    (hn : new.filled? w = some n) :
    (Callback.update old new).change? w now =
      if Object.isRelevant o n then some (.upsert (Object.snapshot now n)) else none := by
  simp only [Callback.change?, ho, hn]

/-- What is said of an object. -/
structure Says (w : WatchedType) (ch : Change) (k : Key) (face : Option Face) : Prop where
  built : ch.Built
  id : ch.id = (identifierOf w k).id
  verdict : ch.verdict = face

/-- A report on an object that is there is a change that tells what it looks like, or there is no
change and it looks as before. -/
theorem change?_report (now : Instant) (h : cache.WellKept w namespaced) {k : Key} {m : Manifest}
    (hm : Watch.Fits w namespaced m) (hk : m.key? = some k) :
    (∃ ch, (cache.report k m).change? w now = some ch ∧ Says w ch k (some (faceOf w k m))) ∨
      ((cache.report k m).change? w now = none ∧
        (cache[k]?).map (faceOf w k) = some (faceOf w k m)) := by
  obtain ⟨j, hj, hface⟩ := hm.filled hk
  have hid : (Object.identifier j).id = (identifierOf w k).id :=
    congrArg (fun f => f.identifier.id) hface
  have hsaid : Says w (.upsert (Object.snapshot now j)) k (some (faceOf w k m)) :=
    ⟨.inl ⟨_, rfl⟩, (Object.id_upsert_snapshot now j).trans hid,
      (Object.verdict_upsert_snapshot now j).trans (congrArg some hface)⟩
  unfold Cache.report
  rw [h.find? (hm.isProper hk)]
  cases hc : cache[k]? with
  | none =>
    refine .inl ⟨_, ?_, hsaid⟩
    show (m.filled? w).map _ = _
    rw [hj]
    rfl
  | some old =>
    obtain ⟨hkold, hold⟩ := h k old hc
    obtain ⟨o, ho, hfaceold⟩ := hold.filled hkold
    show (∃ ch, (Callback.update old m).change? w now = some ch ∧ _) ∨
      ((Callback.update old m).change? w now = none ∧ _)
    rw [change?_update ho hj]
    by_cases hr : Object.isRelevant o j = true
    · rw [if_pos hr]
      exact .inl ⟨_, rfl, hsaid⟩
    · rw [if_neg hr]
      have hlabels : Object.labels o = Object.labels j := by
        unfold Object.isRelevant at hr
        simpa using hr
      refine .inr ⟨rfl, ?_⟩
      have hl := congrArg Face.labels hfaceold
      have hl' := congrArg Face.labels hface
      show some (faceOf w k old) = some (faceOf w k m)
      unfold faceOf at hl hl' ⊢
      dsimp only at hl hl'
      rw [← hl, ← hl', hlabels]

/-- A report on an object that is gone is a change that says so. -/
theorem change?_delete (now : Instant) {k : Key} {m : Manifest} (hm : Watch.Fits w namespaced m)
    (hk : m.key? = some k) :
    ∃ ch, (Callback.delete m).change? w now = some ch ∧ Says w ch k none := by
  obtain ⟨j, hj, hface⟩ := hm.filled hk
  refine ⟨.delete (Object.identifier j), ?_, .inr ⟨_, rfl⟩, ?_, rfl⟩
  · show (m.filled? w).map _ = _
    rw [hj]
    rfl
  · exact congrArg (fun f => f.identifier.id) hface

/-- The changes tell what a cache holds in place of another one: each of them tells what is now
under a proper key, and what none of them is about looks as before. -/
structure Tells (w : WatchedType) (namespaced : Bool) (cache cache' : Cache) (chs : List Change) :
    Prop where
  each : ∀ ch ∈ chs, ∃ k, IsProper namespaced k ∧ Says w ch k ((cache'[k]?).map (faceOf w k))
  silent : ∀ k, IsProper namespaced k → (∀ ch ∈ chs, ch.id ≠ (identifierOf w k).id) →
    (cache'[k]?).map (faceOf w k) = (cache[k]?).map (faceOf w k)

theorem tells_applied (h : cache.WellKept w namespaced) {m : Manifest}
    (hm : Watch.Fits w namespaced m) {k : Key} (hk : m.key? = some k) :
    Tells w namespaced cache (cache.insert k m)
      ([cache.report k m].filterMap (Callback.change? w now)) := by
  have hself : ((cache.insert k m)[k]?).map (faceOf w k) = some (faceOf w k m) := by
    rw [KeyedMap.getElem?_insert_eq, if_pos rfl]
    rfl
  have hother : ∀ k', k' ≠ k → (cache.insert k m)[k']? = cache[k']? := by
    intro k' hne
    rw [KeyedMap.getElem?_insert_eq, if_neg hne.symm]
  rcases change?_report now h hm hk with ⟨ch, hch, hsaid⟩ | ⟨hno, hsame⟩
  · rw [List.filterMap_cons_some hch, List.filterMap_nil]
    refine ⟨fun ch' hmem => ?_, fun k' _ hsilent => ?_⟩
    · rw [List.mem_singleton] at hmem
      subst hmem
      exact ⟨k, hm.isProper hk, hself ▸ hsaid⟩
    · have hne : k' ≠ k := by
        rintro rfl
        exact hsilent ch (List.mem_singleton.mpr rfl) hsaid.id
      rw [hother k' hne]
  · rw [List.filterMap_cons_none hno, List.filterMap_nil]
    refine ⟨fun _ hmem => absurd hmem List.not_mem_nil, fun k' _ _ => ?_⟩
    by_cases hne : k' = k
    · subst hne
      rw [hself, hsame]
    · rw [hother k' hne]

theorem tells_deleted {m : Manifest} (hm : Watch.Fits w namespaced m) {k : Key}
    (hk : m.key? = some k) :
    Tells w namespaced cache (cache.erase k) ([.delete m].filterMap (Callback.change? w now)) := by
  obtain ⟨ch, hch, hsaid⟩ := change?_delete now hm hk
  rw [List.filterMap_cons_some hch, List.filterMap_nil]
  refine ⟨fun ch' hmem => ?_, fun k' _ hsilent => ?_⟩
  · rw [List.mem_singleton] at hmem
    subst hmem
    refine ⟨k, hm.isProper hk, ?_⟩
    rw [KeyedMap.getElem?_erase_eq, if_pos rfl]
    exact hsaid
  · have hne : k ≠ k' := by
      rintro rfl
      exact hsilent ch (List.mem_singleton.mpr rfl) hsaid.id
    rw [KeyedMap.getElem?_erase_eq, if_neg hne]

/-- The changes made of the objects that are missing from a list. -/
theorem mem_changes_missing {keys : List Key} {ch : Change} :
    ch ∈ ((cache.missing keys).map Callback.delete).filterMap (Callback.change? w now) ↔
      ∃ k m, cache[k]? = some m ∧ k ∉ keys ∧ (Callback.delete m).change? w now = some ch := by
  rw [List.mem_filterMap]
  constructor
  · rintro ⟨cb, hcb, hch⟩
    obtain ⟨m, hm, rfl⟩ := List.mem_map.mp hcb
    obtain ⟨k, hkm, hk⟩ := mem_missing.mp hm
    exact ⟨k, m, hkm, hk, hch⟩
  · rintro ⟨k, m, hkm, hk, hch⟩
    exact ⟨_, List.mem_map_of_mem (mem_missing.mpr ⟨k, hkm, hk⟩), hch⟩

/-- The changes made of the objects of a list. -/
theorem mem_changes_listed {es : List (Key × Manifest)} {ch : Change} :
    ch ∈ (es.map fun e => cache.report e.1 e.2).filterMap (Callback.change? w now) ↔
      ∃ k m, (k, m) ∈ es ∧ (cache.report k m).change? w now = some ch := by
  rw [List.mem_filterMap]
  constructor
  · rintro ⟨cb, hcb, hch⟩
    obtain ⟨⟨k, m⟩, hm, rfl⟩ := List.mem_map.mp hcb
    exact ⟨k, m, hm, hch⟩
  · rintro ⟨k, m, hm, hch⟩
    exact ⟨_, List.mem_map_of_mem hm, hch⟩

section Lists

variable {ms : List Manifest} {es : List (Key × Manifest)}

theorem fits_of_entry (hms : Event.Fits w namespaced (.restarted ms))
    (hes : Cache.keyed? ms = some es) {k : Key} {m : Manifest} (hmem : (k, m) ∈ es) :
    Watch.Fits w namespaced m ∧ m.key? = some k := by
  obtain ⟨hm, hk⟩ := (mem_of_keyed? hes).mp hmem
  exact ⟨hms.1 m hm, hk⟩

theorem map_face_ofList (hms : Event.Fits w namespaced (.restarted ms))
    (hes : Cache.keyed? ms = some es) {k : Key} {m : Manifest} (hmem : (k, m) ∈ es) :
    ((Cache.ofList es)[k]?).map (faceOf w k) = some (faceOf w k m) := by
  rw [(getElem?_ofList hes hms.2).mpr hmem]
  rfl

theorem ofList_eq_none (hms : Event.Fits w namespaced (.restarted ms))
    (hes : Cache.keyed? ms = some es) {k : Key} (hk : k ∉ es.map (·.1)) :
    (Cache.ofList es)[k]? = none := by
  cases hc : (Cache.ofList es)[k]? with
  | none => rfl
  | some m =>
    exact absurd (List.mem_map_of_mem (f := (·.1)) ((getElem?_ofList hes hms.2).mp hc)) hk

/-- The changes made of the objects that are missing from a list say that they are gone. -/
theorem says_missing (h : cache.WellKept w namespaced)
    (hms : Event.Fits w namespaced (.restarted ms)) (hes : Cache.keyed? ms = some es) {ch : Change}
    (hmem : ch ∈ ((cache.missing (es.map (·.1))).map Callback.delete).filterMap
      (Callback.change? w now)) :
    ∃ k, IsProper namespaced k ∧ Says w ch k (((Cache.ofList es)[k]?).map (faceOf w k)) := by
  obtain ⟨k, m, hkm, hk, hch⟩ := mem_changes_missing.mp hmem
  obtain ⟨hkey, hfits⟩ := h k m hkm
  obtain ⟨ch', hch', hsaid⟩ := change?_delete now hfits hkey
  rw [hch] at hch'
  cases hch'
  refine ⟨k, hfits.isProper hkey, ?_⟩
  rw [ofList_eq_none hms hes hk]
  exact hsaid

/-- The changes made of the objects of a list tell what they look like. -/
theorem says_listed (h : cache.WellKept w namespaced)
    (hms : Event.Fits w namespaced (.restarted ms)) (hes : Cache.keyed? ms = some es) {ch : Change}
    (hmem : ch ∈ (es.map fun e => cache.report e.1 e.2).filterMap (Callback.change? w now)) :
    ∃ k, IsProper namespaced k ∧ Says w ch k (((Cache.ofList es)[k]?).map (faceOf w k)) := by
  obtain ⟨k, m, hm, hch⟩ := mem_changes_listed.mp hmem
  obtain ⟨hfits, hkey⟩ := fits_of_entry hms hes hm
  refine ⟨k, hfits.isProper hkey, ?_⟩
  rw [map_face_ofList hms hes hm]
  rcases change?_report now h hfits hkey with ⟨ch', hch', hsaid⟩ | ⟨hno, -⟩
  · rw [hch] at hch'
    cases hch'
    exact hsaid
  · rw [hno] at hch
    cases hch

theorem tells_restarted (h : cache.WellKept w namespaced)
    (hms : Event.Fits w namespaced (.restarted ms)) (hes : Cache.keyed? ms = some es) :
    Tells w namespaced cache (Cache.ofList es)
      (((cache.missing (es.map (·.1))).map Callback.delete ++
        es.map fun e => cache.report e.1 e.2).filterMap (Callback.change? w now)) := by
  rw [List.filterMap_append]
  refine ⟨fun ch hmem => ?_, fun k hk hsilent => ?_⟩
  · rcases List.mem_append.mp hmem with hmem | hmem
    · exact says_missing h hms hes hmem
    · exact says_listed h hms hes hmem
  · by_cases hk : k ∈ es.map (·.1)
    · obtain ⟨⟨k', m⟩, hm, rfl⟩ := List.mem_map.mp hk
      obtain ⟨hfits, hkey⟩ := fits_of_entry hms hes hm
      rw [map_face_ofList hms hes hm]
      rcases change?_report now h hfits hkey with ⟨ch, hch, hsaid⟩ | ⟨-, hsame⟩
      · have hmem := mem_changes_listed.mpr ⟨k', m, hm, hch⟩
        exact absurd hsaid.id (hsilent ch (List.mem_append_right _ hmem))
      · exact hsame.symm
    · rw [ofList_eq_none hms hes hk]
      cases hc : cache[k]? with
      | none => rfl
      | some m =>
        obtain ⟨hkey, hfits⟩ := h k m hc
        obtain ⟨ch, hch, hsaid⟩ := change?_delete now hfits hkey
        have hmem := mem_changes_missing.mpr ⟨k, m, hc, hk, hch⟩
        exact absurd hsaid.id (hsilent ch (List.mem_append_left _ hmem))

end Lists

/-- The changes that are made of an event tell what the cache holds after it. -/
theorem tells_of_dispatch (h : cache.WellKept w namespaced) {e : Event} (he : e.Fits w namespaced)
    {cs : List Callback} (hd : dispatch? cache e = some (cs, cache')) (now : Instant) :
    Tells w namespaced cache cache' (cs.filterMap (Callback.change? w now)) := by
  cases dispatched hd with
  | applied hk => exact tells_applied h he hk
  | deleted hk => exact tells_deleted he hk
  | restarted hes => exact tells_restarted h he hes

end ClusterFeed.Watch
