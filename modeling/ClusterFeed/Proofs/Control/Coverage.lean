import ClusterFeed.Proofs.Control.Traffic

/-!
# What a resync tells and what the queue was told

A resync tells the objects in the caches, and the index has heard of the same objects before,
through the queue. The two agree on every id but for those of the definitions of custom types, which
a resync leaves out. For this the types must be told apart by the ids of their objects: no two have
both the same group and version and the same kind, and none of these has a colon in it.

A resync tells what `collect_resync` gives.
-/

namespace ClusterFeed.Control

open Cluster (Manifest Key)
open Time (Instant)
open Watch (Informer IsProper identifierOf faceOf)

/-- The types of a feed are told apart. -/
structure ToldApart (types : List WatchedType) : Prop where
  /-- They are different types -/
  gvrs : types.Pairwise fun w w' => w.gvr ≠ w'.gvr
  /-- with different kinds or in different versions, -/
  kinds : types.Pairwise fun w w' => w.gvr.apiVersion ≠ w'.gvr.apiVersion ∨ w.kind ≠ w'.kind
  /-- and the texts of both are free of colons. -/
  colonFree : ∀ w ∈ types, ':' ∉ w.gvr.apiVersion.toList ∧ ':' ∉ w.kind.toList

variable {types : List WatchedType} {namespaced : Gvr → Bool}

theorem ToldApart.eq_of_gvr (h : ToldApart types) {w w' : WatchedType} (hw : w ∈ types)
    (hw' : w' ∈ types) (hgvr : w.gvr = w'.gvr) : w = w' := by
  have hsymm : Std.Symm fun w w' : WatchedType => w.gvr ≠ w'.gvr := ⟨fun _ _ h => h.symm⟩
  by_contra hne
  exact h.gvrs.forall hw hw' hne hgvr

/-- An id tells the type of the object, and its key. -/
theorem ToldApart.eq_of_id (h : ToldApart types) {w w' : WatchedType} (hw : w ∈ types)
    (hw' : w' ∈ types) {b b' : Bool} {k k' : Key} (hk : IsProper b k) (hk' : IsProper b' k')
    (hid : (identifierOf w k).id = (identifierOf w' k').id) : w = w' := by
  have hparts : ∀ {w : WatchedType}, w ∈ types → ∀ {b : Bool} {k : Key}, IsProper b k →
      Identifier.ofId? (identifierOf w k).id = some (identifierOf w k) := by
    intro w hw b k hk
    obtain ⟨hversion, hkind⟩ := h.colonFree w hw
    exact Identifier.ofId?_id (Watch.colon_free_identifierOf hk) hversion hkind
  have heq : identifierOf w k = identifierOf w' k' := by
    have := hparts hw hk
    rw [hid, hparts hw' hk'] at this
    exact (Option.some.inj this).symm
  have hversion : w.gvr.apiVersion = w'.gvr.apiVersion := congrArg Identifier.apiVersion heq
  have hkind : w.kind = w'.kind := congrArg Identifier.kind heq
  have hsymm : Std.Symm fun w w' : WatchedType =>
      w.gvr.apiVersion ≠ w'.gvr.apiVersion ∨ w.kind ≠ w'.kind :=
    ⟨fun _ _ h => h.imp Ne.symm Ne.symm⟩
  by_contra hne
  rcases h.kinds.forall hw hw' hne with h | h
  · exact h hversion
  · exact h hkind

/-! ## The queue tells what is in the caches -/

/-- The informers are well kept, and what the index was told last of an object is what its informer
has in its cache. -/
structure Traffic.Covers (types : List WatchedType) (namespaced : Gvr → Bool) (t : Traffic) :
    Prop where
  informers (gvr : Gvr) (i : Informer) : t.feed.informers[gvr]? = some i →
    i.resource ∈ types ∧ i.resource.gvr = gvr ∧ i.cache.WellKept i.resource (namespaced gvr)
  entries : ∀ e ∈ t.forwarded, e.2.Built ∧ ∃ w ∈ types, w.gvr = e.1 ∧
    ∃ k, IsProper (namespaced w.gvr) k ∧ e.2.id = (identifierOf w k).id
  told : ∀ w ∈ types, ∀ k, IsProper (namespaced w.gvr) k →
    t.told (identifierOf w k).id = ((t.feed.cacheOf w.gvr)[k]?).map (faceOf w k)

namespace Traffic

variable {t : Traffic}

theorem covers_beginning (opts : Options) (scope : String) (settings : Settings) (now : Nat)
    (types : List WatchedType) (namespaced : Gvr → Bool) :
    Covers types namespaced ⟨.beginning opts scope settings now types, []⟩ := by
  refine ⟨fun gvr i hi => ?_, fun _ he => absurd he List.not_mem_nil, fun w _ k _ => ?_⟩
  · obtain ⟨w, hw, hgvr, rfl⟩ := informer_of_beginning hi
    exact ⟨hw, hgvr, Watch.wellKept_empty⟩
  · have hempty : (Feed.beginning opts scope settings now types).cacheOf w.gvr = ∅ := by
      unfold Feed.cacheOf
      cases hi : (Feed.beginning opts scope settings now types).informers[w.gvr]? with
      | none => rfl
      | some i =>
        obtain ⟨-, -, -, rfl⟩ := informer_of_beginning hi
        rfl
    show none = _
    rw [hempty, Std.ExtTreeMap.getElem?_empty]
    rfl

/-- Changes that come into the queue are told in place of those before them. -/
theorem told_append {t t' : Traffic} {gvr : Gvr} {chs : List Change}
    (h : t'.forwarded = t.forwarded ++ chs.map (gvr, ·)) (id : String) :
    t'.told id = (chs.findRev? fun c => decide (c.id = id)).elim (t.told id) Change.verdict := by
  have hmap : ((chs.map (gvr, ·)).findRev? fun e => decide (e.2.id = id)) =
      (chs.findRev? fun c => decide (c.id = id)).map (gvr, ·) := by
    simp only [List.findRev?_eq_find?_reverse, ← List.map_reverse, List.find?_map]
    rfl
  unfold told last?
  rw [h, Itemwise.findRev?_append, hmap]
  cases chs.findRev? fun c => decide (c.id = id) <;> rfl

/-- Changes that tell what one informer has in its cache now, and say nothing of other types. -/
theorem Covers.told_of_tells (h : t.Covers types namespaced) (hapart : ToldApart types) {gvr : Gvr}
    {i : Informer} (hi : t.feed.informers[gvr]? = some i) {cache : Watch.Cache} {chs : List Change}
    (htells : Watch.Tells i.resource (namespaced gvr) i.cache cache chs) {w : WatchedType}
    (hw : w ∈ types) {k : Key} (hk : IsProper (namespaced w.gvr) k) :
    (chs.findRev? fun c => decide (c.id = (identifierOf w k).id)).elim
        (t.told (identifierOf w k).id) Change.verdict =
      ((if gvr = w.gvr then cache else t.feed.cacheOf w.gvr)[k]?).map (faceOf w k) := by
  obtain ⟨hi', hgvr, -⟩ := h.informers gvr i hi
  cases hf : chs.findRev? fun c => decide (c.id = (identifierOf w k).id) with
  | some ch =>
    obtain ⟨hch, hid⟩ := Itemwise.mem_of_findRev? hf
    obtain ⟨k', hk', hsaid⟩ := htells.each ch hch
    have hsame : (identifierOf i.resource k').id = (identifierOf w k).id :=
      hsaid.id.symm.trans (of_decide_eq_true hid)
    have heq := hapart.eq_of_id hi' hw hk' hk hsame
    subst heq
    rw [hgvr] at hk
    have hkeys := Watch.key_eq_of_id_eq hk' hk hsame
    subst hkeys
    rw [if_pos hgvr.symm]
    exact hsaid.verdict
  | none =>
    show t.told (identifierOf w k).id = _
    rw [h.told w hw k hk]
    by_cases heq : i.resource = w
    · subst heq
      rw [hgvr] at hk ⊢
      rw [if_pos rfl, cacheOf_of_some hi]
      refine (htells.silent k hk fun ch hch hid => ?_).symm
      exact Itemwise.findRev?_eq_none_iff.mp hf ch hch (decide_eq_true hid)
    · have hne : gvr ≠ w.gvr := fun hsame =>
        heq (hapart.eq_of_gvr hi' hw (hgvr.trans hsame))
      rw [if_neg hne]

/-- An event of a watch changes the cache of its informer and tells so. -/
theorem Covers.watch (h : t.Covers types namespaced) (hapart : ToldApart types) {gvr : Gvr}
    {now : Instant} {e : Watch.Event}
    (he : Feed.Event.Fits types namespaced (.watch gvr now e))
    (hdropped : (t.step (.watch gvr now e)).feed.dropped = t.feed.dropped) :
    (t.step (.watch gvr now e)).Covers types namespaced := by
  cases hi : t.feed.informers[gvr]? with
  | none =>
    rw [step_watch_of_none hi]
    exact h
  | some i =>
    obtain ⟨hw, hgvr, hkept⟩ := h.informers gvr i hi
    obtain ⟨cache, chs, hinformers, hforwarded, hkept', htells⟩ :=
      step_watch hi hkept (he i.resource hw hgvr) hdropped
    refine ⟨fun gvr' i' hi' => ?_, fun e' he' => ?_, fun w hw' k hk => ?_⟩
    · rw [hinformers, KeyedMap.getElem?_insert_eq] at hi'
      split at hi'
      · rename_i heq
        cases hi'
        subst heq
        exact ⟨hw, hgvr, hkept'⟩
      · exact h.informers gvr' i' hi'
    · rw [hforwarded] at he'
      rcases List.mem_append.mp he' with he' | he'
      · exact h.entries e' he'
      · obtain ⟨ch, hch, rfl⟩ := List.mem_map.mp he'
        obtain ⟨k, hk, hsaid⟩ := htells.each ch hch
        exact ⟨hsaid.built, i.resource, hw, hgvr, k, hgvr ▸ hk, hsaid.id⟩
    · rw [told_append hforwarded, cacheOf_insert hinformers]
      exact h.told_of_tells hapart hi htells hw' hk

theorem Covers.step (h : t.Covers types namespaced) (hapart : ToldApart types) {e : Feed.Event}
    (he : e.Fits types namespaced) (hdropped : (t.step e).feed.dropped = t.feed.dropped) :
    (t.step e).Covers types namespaced := by
  have hquiet : (∀ gvr now e', e ≠ .watch gvr now e') → (t.step e).Covers types namespaced := by
    intro hno
    obtain ⟨hinformers, hforwarded⟩ := step_of_not_watch t hno
    refine ⟨fun gvr i hi => ?_, fun e' he' => ?_, fun w hw k hk => ?_⟩
    · rw [hinformers] at hi
      exact h.informers gvr i hi
    · rw [hforwarded] at he'
      exact h.entries e' he'
    · unfold Traffic.told Traffic.last? Feed.cacheOf
      rw [hforwarded, hinformers]
      exact h.told w hw k hk
  cases e with
  | watch gvr now e => exact h.watch hapart he hdropped
  | turn => exact hquiet fun _ _ _ h => by cases h
  | answer outcome => exact hquiet fun _ _ _ h => by cases h
  | pass nanos => exact hquiet fun _ _ _ h => by cases h

/-- Whatever the watches tell, as long as nothing is dropped, the queue was told what is in the
caches. -/
theorem Covers.run (h : t.Covers types namespaced) (hapart : ToldApart types)
    {es : List Feed.Event} (hes : ∀ e ∈ es, e.Fits types namespaced)
    (hdropped : (t.run es).feed.dropped = t.feed.dropped) :
    (t.run es).Covers types namespaced := by
  have hle : ∀ es : List Feed.Event, t.feed.dropped ≤ (t.run es).feed.dropped := by
    intro es
    induction es using List.reverseRecOn with
    | nil => exact Nat.le_refl _
    | append_singleton es e ih =>
      rw [run_concat]
      exact Nat.le_trans ih (dropped_le_step _ e)
  induction es using List.reverseRecOn with
  | nil => exact h
  | append_singleton es e ih =>
    rw [run_concat] at hdropped ⊢
    have hlast := dropped_le_step (t.run es) e
    have hbefore := hle es
    have hes' := ih (fun e' he' => hes e' (List.mem_append_left _ he')) (by omega)
    exact hes'.step hapart (hes e (by simp)) (by omega)

end Traffic

/-! ## What a resync tells -/

/-- The snapshots of a resync are those of the cached objects of all types but one. -/
theorem mem_collect {f : Feed} {now : Instant} {s : Snapshot} :
    s ∈ ResyncSource.collect now f.sources ↔
      ∃ (gvr : Gvr) (i : Informer), f.informers[gvr]? = some i ∧
        i.resource.gvr.isDefinition = false ∧ ∃ (k : Key) (m : Manifest) (j : Json),
          i.cache[k]? = some m ∧ m.filled? i.resource = some j ∧ s = Object.snapshot now j := by
  unfold ResyncSource.collect ResyncSource.snapshots Feed.sources
  simp only [List.mem_flatMap, List.mem_filter, List.mem_map, List.mem_filterMap,
    KeyedMap.mem_values, Option.map_eq_some_iff, Bool.not_eq_true']
  constructor
  · rintro ⟨_, ⟨⟨i, ⟨gvr, hi⟩, rfl⟩, hdef⟩, m, ⟨k, hm⟩, j, hj, rfl⟩
    exact ⟨gvr, i, hi, hdef, k, m, j, hm, hj, rfl⟩
  · rintro ⟨gvr, i, hi, hdef, k, m, j, hm, hj, rfl⟩
    exact ⟨_, ⟨⟨i, ⟨gvr, hi⟩, rfl⟩, hdef⟩, m, ⟨k, hm⟩, j, hj, rfl⟩

/-- A resync and the queue agree but for the definitions of custom types. -/
structure Agrees (t : Traffic) (now : Instant) : Prop where
  /-- A resync tells the ids of which an upsert came last, unless it was from the informer of the
  definitions. -/
  ids (id : String) : (∃ s ∈ ResyncSource.collect now t.feed.sources, s.id = id) ↔
    ∃ gvr c, t.last? id = some (gvr, c) ∧ c.isUpsert ∧ gvr.isDefinition = false
  /-- It tells the labels of that upsert. -/
  labels : ∀ s ∈ ResyncSource.collect now t.feed.sources,
    ∃ gvr u, t.last? s.id = some (gvr, .upsert u) ∧ s.labels = u.labels

section

variable {t : Traffic} {i : Informer} {k : Key} {m : Manifest} {gvr : Gvr}

/-- Of a cached object an upsert came last, from its own informer and with its labels. -/
theorem last?_of_cached (h : t.Covers types namespaced) (hapart : ToldApart types)
    (hi : t.feed.informers[gvr]? = some i) (hm : i.cache[k]? = some m) {j : Json}
    (hj : m.filled? i.resource = some j) (now : Instant) :
    ∃ u, t.last? (Object.snapshot now j).id = some (gvr, .upsert u) ∧
      (Object.snapshot now j).labels = u.labels := by
  obtain ⟨hw, rfl, hkept⟩ := h.informers gvr i hi
  obtain ⟨hkey, hfits⟩ := hkept k m hm
  have hk := hfits.isProper hkey
  obtain ⟨hid, hlabels⟩ := hfits.snapshot hkey hj now
  have htold := h.told i.resource hw k hk
  rw [cacheOf_of_some hi, hm, ← hid] at htold
  obtain ⟨⟨gvr, c⟩, hlast, hverdict⟩ := Option.bind_eq_some_iff.mp htold
  obtain ⟨hmem, hlastid⟩ := Itemwise.mem_of_findRev? hlast
  obtain ⟨hbuilt, w, hw', hgvr, k', hk', hid'⟩ := h.entries _ hmem
  -- only the informer of its own type tells of the object
  have heq : i.resource = w := hapart.eq_of_id hw hw' hk hk' <|
    hid.symm.trans ((of_decide_eq_true hlastid).symm.trans hid')
  have hsame : gvr = i.resource.gvr := by
    rw [heq]
    exact hgvr.symm
  subst hsame
  obtain ⟨u, rfl⟩ | ⟨d, rfl⟩ := hbuilt
  · exact ⟨u, hlast, hlabels.trans (congrArg Face.labels (Option.some.inj hverdict)).symm⟩
  · cases hverdict

/-- When an upsert of an id came last, its informer has the object in its cache. -/
theorem exists_cached (h : t.Covers types namespaced) (hapart : ToldApart types) {id : String}
    {c : Change} (hlast : t.last? id = some (gvr, c)) (hu : c.isUpsert) (now : Instant) :
    ∃ (i : Informer) (k : Key) (m : Manifest) (j : Json), t.feed.informers[gvr]? = some i ∧
      i.resource.gvr = gvr ∧ i.cache[k]? = some m ∧ m.filled? i.resource = some j ∧
      (Object.snapshot now j).id = id := by
  obtain ⟨hmem, hid⟩ := Itemwise.mem_of_findRev? hlast
  obtain ⟨hbuilt, w, hw, rfl, k, hk, hid'⟩ := h.entries _ hmem
  have hsame : (identifierOf w k).id = id := hid'.symm.trans (of_decide_eq_true hid)
  have htold : c.verdict = ((t.feed.cacheOf w.gvr)[k]?).map (faceOf w k) := by
    rw [← h.told w hw k hk, hsame, Traffic.told, hlast]
    rfl
  obtain ⟨s, rfl⟩ | ⟨d, rfl⟩ := hbuilt
  · obtain ⟨m, hm, -⟩ := Option.map_eq_some_iff.mp htold.symm
    cases hi : t.feed.informers[w.gvr]? with
    | none => simp [Feed.cacheOf, hi] at hm
    | some i =>
      obtain ⟨hw', hgvr, hkept⟩ := h.informers w.gvr i hi
      rw [cacheOf_of_some hi] at hm
      obtain ⟨hkey, hfits⟩ := hkept k m hm
      obtain ⟨j, hj, -⟩ := hfits.filled hkey
      refine ⟨i, k, m, j, rfl, hgvr, hm, hj, ?_⟩
      rw [(hfits.snapshot hkey hj now).1, hapart.eq_of_gvr hw' hw hgvr, hsame]
  · cases hu

theorem agrees_of_covers (h : t.Covers types namespaced) (hapart : ToldApart types)
    (now : Instant) : Agrees t now := by
  refine ⟨fun id => ⟨?_, ?_⟩, fun s hs => ?_⟩
  · rintro ⟨s, hs, rfl⟩
    obtain ⟨gvr, i, hi, hdef, k, m, j, hm, hj, rfl⟩ := mem_collect.mp hs
    obtain ⟨u, hlast, -⟩ := last?_of_cached h hapart hi hm hj now
    exact ⟨gvr, _, hlast, rfl, (h.informers gvr i hi).2.1 ▸ hdef⟩
  · rintro ⟨gvr, c, hlast, hu, hdef⟩
    obtain ⟨i, k, m, j, hi, hgvr, hm, hj, hid⟩ := exists_cached h hapart hlast hu now
    exact ⟨_, mem_collect.mpr ⟨gvr, i, hi, hgvr ▸ hdef, k, m, j, hm, hj, rfl⟩, hid⟩
  · obtain ⟨gvr, i, hi, -, k, m, j, hm, hj, rfl⟩ := mem_collect.mp hs
    obtain ⟨u, hlast, hlabels⟩ := last?_of_cached h hapart hi hm hj now
    exact ⟨gvr, u, hlast, hlabels⟩

end

/-- Whatever the watches tell, as long as nothing is dropped, a resync tells what the queue was told
last, but for the definitions of custom types. -/
theorem resync_agrees_of_run (opts : Options) (scope : String) (settings : Settings) (start : Nat)
    (types : List WatchedType) (namespaced : Gvr → Bool) (es : List Feed.Event) (now : Instant)
    (hapart : ToldApart types) (hes : ∀ e ∈ es, e.Fits types namespaced)
    (hdropped :
      (Traffic.run ⟨.beginning opts scope settings start types, []⟩ es).feed.dropped = 0) :
    Agrees (Traffic.run ⟨.beginning opts scope settings start types, []⟩ es) now := by
  have hfresh : (Feed.beginning opts scope settings start types).dropped = 0 := by
    unfold Feed.beginning
    induction types.map Informer.start using List.reverseRecOn with
    | nil => rfl
    | append_singleton is i ih =>
      rw [List.foldl_append]
      exact ih
  have hbegin := Traffic.covers_beginning opts scope settings start types namespaced
  exact agrees_of_covers (hbegin.run hapart hes (hdropped.trans hfresh.symm)) hapart now

/-! ## A run with a definition -/

/-- The types of pods and of the definitions of custom types. -/
def twoTypes : List WatchedType :=
  [⟨⟨"", "v1", "pods"⟩, "Pod", true⟩,
    ⟨⟨"apiextensions.k8s.io", "v1", "customresourcedefinitions"⟩, "CustomResourceDefinition",
      false⟩]

/-- Pods live in namespaces, definitions do not. -/
def podsNamespaced (gvr : Gvr) : Bool := gvr.resource == "pods"

/-- A pod and a definition come, and then the pod gets a label. -/
def definitionRun : List Feed.Event :=
  [.watch ⟨"", "v1", "pods"⟩ ⟨0, 0⟩ (.applied (Watch.labelled (some "default") "web" ∅)),
    .watch ⟨"apiextensions.k8s.io", "v1", "customresourcedefinitions"⟩ ⟨1, 0⟩
      (.restarted [Watch.labelled none "gadgets.example.org" ∅]),
    .turn,
    .watch ⟨"", "v1", "pods"⟩ ⟨2, 0⟩
      (.applied (Watch.labelled (some "default") "web" ((∅ : TextMap String).insert "app" "web")))]

/-- What has come into the queue after that run. -/
def definitionTraffic : Traffic :=
  Traffic.run ⟨.beginning .usual "default" ⟨"", ⟨0⟩, ⟨0⟩, none⟩ 0 twoTypes, []⟩ definitionRun

theorem fits_labelled (w : WatchedType) {namespaced : Bool} {scope : Option String} {name : String}
    (h : IsProper namespaced ⟨scope, name⟩) (labels : TextMap String) :
    Watch.Fits w namespaced (Watch.labelled scope name labels) := by
  refine ⟨⟨⟨scope, name⟩, rfl, h⟩, ⟨.inr ⟨_, rfl⟩, by simp [Watch.labelled, Json.fields]⟩,
    fun j hj => ?_⟩
  cases hj
  refine ⟨fun a ha => ?_, fun k hk => ?_⟩
  · simp [Json.text?, Json.get?, Json.fields, Watch.labelled, Manifest.typeFields] at ha
  · simp [Json.text?, Json.get?, Json.fields, Watch.labelled, Manifest.typeFields] at hk

theorem toldApart_twoTypes : ToldApart twoTypes := by
  refine ⟨?_, ?_, ?_⟩
  · simp [twoTypes]
  · simp [twoTypes]
  · intro w hw
    simp only [twoTypes, List.mem_cons, List.not_mem_nil, or_false] at hw
    rcases hw with rfl | rfl
    · decide
    · decide

theorem fits_definitionRun : ∀ e ∈ definitionRun, e.Fits twoTypes podsNamespaced := by
  have hpod : ∀ w labels, Watch.Fits w true (Watch.labelled (some "default") "web" labels) :=
    fun w => fits_labelled w ⟨"default", rfl, by decide, by decide⟩
  have hdefinition : ∀ w, Watch.Fits w false (Watch.labelled none "gadgets.example.org" ∅) :=
    fun w => fits_labelled w (show IsProper false ⟨none, _⟩ from rfl) ∅
  simp [definitionRun, Feed.Event.Fits, Watch.Event.Fits, podsNamespaced, hpod, hdefinition]

theorem dropped_definitionTraffic : definitionTraffic.feed.dropped = 0 := by decide +kernel

theorem resync_agrees_of_definitionRun :
    ToldApart twoTypes ∧ (∀ e ∈ definitionRun, e.Fits twoTypes podsNamespaced) ∧
      definitionTraffic.feed.dropped = 0 ∧ Agrees definitionTraffic ⟨3, 0⟩ :=
  ⟨toldApart_twoTypes, fits_definitionRun, dropped_definitionTraffic,
    resync_agrees_of_run .usual "default" ⟨"", ⟨0⟩, ⟨0⟩, none⟩ 0 twoTypes podsNamespaced
      definitionRun ⟨3, 0⟩ toldApart_twoTypes fits_definitionRun dropped_definitionTraffic⟩

/-- The queue was told of the definition, but a resync does not tell it. -/
theorem resync_leaves_definition_out :
    ToldApart twoTypes ∧ (∀ e ∈ definitionRun, e.Fits twoTypes podsNamespaced) ∧
      definitionTraffic.feed.dropped = 0 ∧
      ∃ id gvr u, definitionTraffic.last? id = some (gvr, .upsert u) ∧
        ∀ s ∈ ResyncSource.collect ⟨3, 0⟩ definitionTraffic.feed.sources, s.id ≠ id := by
  have hlast : definitionTraffic.last?
      "_cluster:apiextensions.k8s.io/v1:CustomResourceDefinition:gadgets.example.org" =
        some (⟨"apiextensions.k8s.io", "v1", "customresourcedefinitions"⟩,
          .upsert ⟨"gadgets.example.org", "_cluster", "CustomResourceDefinition",
            "apiextensions.k8s.io/v1", ∅, ∅, ⟨1, 0⟩⟩) := by decide +kernel
  have hcollect : (ResyncSource.collect ⟨3, 0⟩ definitionTraffic.feed.sources).map Snapshot.id =
      ["default:v1:Pod:web"] := by decide +kernel
  refine ⟨toldApart_twoTypes, fits_definitionRun, dropped_definitionTraffic, _, _, _, hlast,
    fun s hs hid => ?_⟩
  have hmem := List.mem_map_of_mem (f := Snapshot.id) hs
  rw [hcollect, hid] at hmem
  revert hmem
  decide

end ClusterFeed.Control
