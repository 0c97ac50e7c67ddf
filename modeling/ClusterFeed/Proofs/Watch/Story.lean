import ClusterFeed.Proofs.Runs
import ClusterFeed.Proofs.Watch.Reports

/-!
# The reports tell the story of the cache

Somebody who hears only the reports of an informer can keep a copy of its cache: an object that is
reported is put under its key, and one that is reported as gone is taken out. After every event the
copy is the cache. When all objects of the type have a namespace or none has, and no list names a
key twice, the reports also tell the truth about what was there before.

The reports are those of `dispatch`.
-/

namespace ClusterFeed.Watch

open Cluster (Manifest Key)

/-! ## Hearing the reports -/

/-- A copy of the cache after a report. -/
def Cache.replay (copy : Cache) (cb : Callback) : Cache :=
  match cb.subject.key? with
  | some k => if cb.isDelete then copy.erase k else copy.insert k cb.subject
  | none => copy

/-- One more event: its reports come after the ones before. -/
def hear? (s : List Callback × Cache) (e : Event) : Option (List Callback × Cache) :=
  (dispatch? s.2 e).map fun (cs, cache) => (s.1 ++ cs, cache)

/-- The reports of events that begin with an empty cache, and the cache after them. -/
def history? (es : List Event) : Option (List Callback × Cache) := es.foldlM hear? ([], ∅)

/-- The objects that an event is about. -/
def Event.objects : Event → List Manifest
  | .applied m => [m]
  | .deleted m => [m]
  | .restarted ms => ms

/-- What the cache holds under a key after an event, when it held `before` there: an object that is
there, nothing for one that is gone, and of a new list the last object with the key. -/
def Event.leaves (k : Key) (before : Option Manifest) : Event → Option Manifest
  | .applied m => if m.key? = some k then some m else before
  | .deleted m => if m.key? = some k then none else before
  | .restarted ms => ms.findRev? fun m => decide (m.key? = some k)

/-- The objects of the event have names. -/
def Event.Named (e : Event) : Prop := ∀ m ∈ e.objects, m.metadata.name.isSome

/-- The objects of the event all have a namespace or all have none, and no two of them have the same
key. -/
@[mk_iff] structure Event.Coherent (namespaced : Bool) (e : Event) : Prop where
  scopes : ∀ m ∈ e.objects, m.metadata.scope.isSome = namespaced
  distinct : e.objects.Pairwise fun m m' => m.key? ≠ m'.key?

variable {namespaced : Bool} {cache cache' : Cache} {e : Event} {cs : List Callback}

/-- Each object is under its own key. -/
def Cache.OwnKeys (cache : Cache) : Prop :=
  ∀ (k : Key) (m : Manifest), cache[k]? = some m → m.key? = some k

/-- The keys of the cache all have a namespace or all have none. -/
def Cache.Scoped (namespaced : Bool) (cache : Cache) : Prop :=
  ∀ (k : Key) (m : Manifest), cache[k]? = some m → k.scope.isSome = namespaced

@[simp] theorem subject_report (cache : Cache) (k : Key) (m : Manifest) :
    (cache.report k m).subject = m := by
  unfold Cache.report
  cases cache.find? k <;> rfl

@[simp] theorem isDelete_report (cache : Cache) (k : Key) (m : Manifest) :
    (cache.report k m).isDelete = false := by
  unfold Cache.report
  cases cache.find? k <;> rfl

/-- What a copy holds of the object of a report. -/
def Callback.left? (cb : Callback) : Option Manifest :=
  if cb.isDelete then none else some cb.subject

theorem getElem?_replay (copy : Cache) (cb : Callback) (k : Key) :
    (copy.replay cb)[k]? = if cb.subject.key? = some k then cb.left? else copy[k]? := by
  unfold Cache.replay Callback.left?
  cases hk : cb.subject.key? with
  | none => rfl
  | some k' =>
    cases cb.isDelete with
    | true => simpa using KeyedMap.getElem?_erase_eq copy k' k
    | false => simpa using KeyedMap.getElem?_insert_eq copy k' k cb.subject

/-- Of the reports on the object with a key the last counts. -/
theorem getElem?_replay_foldl (copy : Cache) (cs : List Callback) (k : Key) :
    (cs.foldl Cache.replay copy)[k]? =
      (cs.findRev? fun cb => decide (cb.subject.key? = some k)).elim copy[k]? Callback.left? :=
  KeyedMap.getElem?_foldl (fun copy cb => getElem?_replay copy cb k) cs copy

/-! ## One event -/

section Lists

variable {ms : List Manifest} {es : List (Key × Manifest)}

theorem key_of_entry (hes : Cache.keyed? ms = some es) {p : Key × Manifest} (hp : p ∈ es) :
    p.2.key? = some p.1 :=
  ((mem_of_keyed? hes).mp hp).2

theorem mem_keys_iff (hes : Cache.keyed? ms = some es) {k : Key} :
    k ∈ es.map (·.1) ↔ ∃ m ∈ ms, m.key? = some k := by
  rw [List.mem_map]
  constructor
  · rintro ⟨⟨k, m⟩, hp, rfl⟩
    exact ⟨m, (mem_of_keyed? hes).mp hp⟩
  · rintro ⟨m, hm⟩
    exact ⟨(k, m), (mem_of_keyed? hes).mpr hm, rfl⟩

theorem getElem?_ofList_eq (es : List (Key × Manifest)) (k : Key) :
    (Cache.ofList es)[k]? = (es.findRev? fun p => decide (p.1 = k)).map (·.2) := by
  unfold Cache.ofList
  rw [KeyedMap.getElem?_foldl_insert Prod.fst Prod.snd, Std.ExtTreeMap.getElem?_empty,
    Option.or_none]

/-- An object is found in a list as well as among its entries. -/
theorem findRev?_keyed (hes : Cache.keyed? ms = some es) (k : Key) :
    (es.findRev? fun p => decide (p.1 = k)).map (·.2) =
      ms.findRev? fun m => decide (m.key? = some k) := by
  have hall := Itemwise.mapM_eq_some_iff.mp hes
  clear hes
  induction hall with
  | nil => rfl
  | @cons m p ms es hp _ ih =>
    obtain ⟨k', hk', rfl⟩ := Option.map_eq_some_iff.mp hp
    rw [Itemwise.findRev?_cons, Itemwise.findRev?_cons, ← ih, hk']
    cases es.findRev? fun p => decide (p.1 = k) with
    | some p' => rfl
    | none =>
      by_cases hk : k' = k
      · simp [hk]
      · simp [hk]

/-- The last report on the listed objects with a key is the one on the last of them. -/
theorem findRev?_listed (h : ∀ p ∈ es, p.2.key? = some p.1) (cache : Cache) (k : Key) :
    ((es.map fun p => cache.report p.1 p.2).findRev? fun cb => decide (cb.subject.key? = some k)) =
      (es.findRev? fun p => decide (p.1 = k)).map fun p => cache.report p.1 p.2 := by
  induction es with
  | nil => rfl
  | cons p es ih =>
    have hp := h p List.mem_cons_self
    rw [List.map_cons, Itemwise.findRev?_cons, Itemwise.findRev?_cons,
      ih fun p hp => h p (List.mem_cons_of_mem _ hp), subject_report, hp]
    cases es.findRev? fun p => decide (p.1 = k) with
    | some p' => rfl
    | none =>
      by_cases hk : p.1 = k
      · simp [hk]
      · simp [hk]

/-- The copy after a new list: what is missing from it is taken out, and all of its objects are put
in. -/
theorem replay_restarted (h : cache.OwnKeys) (hes : Cache.keyed? ms = some es) :
    ((cache.missing (es.map (·.1))).map Callback.delete ++
      es.map fun p => cache.report p.1 p.2).foldl Cache.replay cache = Cache.ofList es := by
  ext k : 1
  rw [getElem?_replay_foldl, Itemwise.findRev?_append, findRev?_listed fun p => key_of_entry hes,
    getElem?_ofList_eq]
  cases hlisted : es.findRev? fun p => decide (p.1 = k) with
  | some p => simp [Callback.left?]
  | none =>
    rw [Option.map_none, Option.none_or]
    cases hgone : ((cache.missing (es.map (·.1))).map Callback.delete).findRev?
        fun cb => decide (cb.subject.key? = some k) with
    | some cb =>
      obtain ⟨m, -, rfl⟩ := List.mem_map.mp (Itemwise.mem_of_findRev? hgone).1
      rfl
    | none =>
      -- an object under this key would be missing from the list
      cases hc : cache[k]? with
      | none => rfl
      | some m =>
        have hk : k ∉ es.map (·.1) := by
          intro hk
          obtain ⟨p, hp, hpk⟩ := List.mem_map.mp hk
          exact Itemwise.findRev?_eq_none_iff.mp hlisted p hp (decide_eq_true hpk)
        have hm := List.mem_map_of_mem (f := Callback.delete) (mem_missing.mpr ⟨k, hc, hk⟩)
        exact absurd (decide_eq_true (h k m hc)) (Itemwise.findRev?_eq_none_iff.mp hgone _ hm)

end Lists

theorem Event.Coherent.isSome_scope (he : e.Coherent namespaced) {m : Manifest} (hm : m ∈ e.objects)
    {k : Key} (hk : m.key? = some k) : k.scope.isSome = namespaced := by
  obtain ⟨name, -, rfl⟩ := Option.map_eq_some_iff.mp hk
  exact he.scopes m hm

theorem exists_dispatch (cache : Cache) (he : e.Named) :
    ∃ cs cache', dispatch? cache e = some (cs, cache') := by
  have hkey : ∀ m ∈ e.objects, ∃ k, m.key? = some k := by
    intro m hm
    obtain ⟨name, hname⟩ := Option.isSome_iff_exists.mp (he m hm)
    exact ⟨_, Option.map_eq_some_iff.mpr ⟨name, hname, rfl⟩⟩
  cases e with
  | applied m =>
    obtain ⟨k, hk⟩ := hkey m List.mem_cons_self
    exact ⟨_, _, Option.map_eq_some_iff.mpr ⟨k, hk, rfl⟩⟩
  | deleted m =>
    obtain ⟨k, hk⟩ := hkey m List.mem_cons_self
    exact ⟨_, _, Option.map_eq_some_iff.mpr ⟨k, hk, rfl⟩⟩
  | restarted ms =>
    have hitem : ∀ m ∈ ms, ∃ p, m.key?.map (·, m) = some p := by
      intro m hm
      obtain ⟨k, hk⟩ := hkey m hm
      exact ⟨(k, m), by rw [hk, Option.map_some]⟩
    obtain ⟨es, hes⟩ := Itemwise.exists_mapM hitem
    exact ⟨_, _, Option.map_eq_some_iff.mpr ⟨es, hes, rfl⟩⟩

theorem named_of_fits {w : WatchedType} (he : e.Fits w namespaced) : e.Named := by
  have hname : ∀ m, Watch.Fits w namespaced m → m.metadata.name.isSome := by
    intro m hm
    obtain ⟨k, hk, -⟩ := hm.keyed
    obtain ⟨name, hname, -⟩ := Option.map_eq_some_iff.mp hk
    rw [hname]
    rfl
  intro m hm
  cases e with
  | applied m' => exact hname m (List.mem_singleton.mp hm ▸ he)
  | deleted m' => exact hname m (List.mem_singleton.mp hm ▸ he)
  | restarted ms => exact hname m (he.1 m hm)

/-- An event puts objects under their own keys only, and its reports lead from the cache before it
to the cache after it. -/
theorem replay_of_dispatch (h : cache.OwnKeys) (hd : dispatch? cache e = some (cs, cache')) :
    cs.foldl Cache.replay cache = cache' ∧ cache'.OwnKeys := by
  cases dispatched hd with
  | @applied m k hk =>
    refine ⟨?_, fun k' m' hm' => ?_⟩
    · simp [Cache.replay, hk]
    · rw [KeyedMap.getElem?_insert_eq] at hm'
      split at hm'
      · rename_i heq
        cases hm'
        rw [hk, heq]
      · exact h k' m' hm'
  | @deleted m k hk =>
    refine ⟨?_, fun k' m' hm' => ?_⟩
    · simp [Cache.replay, Callback.subject, Callback.isDelete, hk]
    · rw [KeyedMap.getElem?_erase_eq] at hm'
      split at hm'
      · cases hm'
      · exact h k' m' hm'
  | restarted hes =>
    refine ⟨replay_restarted h hes, fun k m hm => ?_⟩
    rw [getElem?_ofList_eq] at hm
    obtain ⟨p, hp, rfl⟩ := Option.map_eq_some_iff.mp hm
    obtain ⟨hmem, hk⟩ := Itemwise.mem_of_findRev? hp
    rw [key_of_entry hes hmem, of_decide_eq_true hk]

/-- The cache after an event: an object that is there has been put in, one that is gone has been
taken out, and a new list has taken the place of all that was there. -/
theorem getElem?_of_dispatch (hd : dispatch? cache e = some (cs, cache')) (k : Key) :
    cache'[k]? = e.leaves k cache[k]? := by
  cases dispatched hd with
  | @applied m k' hk =>
    show (cache.insert k' m)[k]? = if m.key? = some k then some m else cache[k]?
    rw [KeyedMap.getElem?_insert_eq, hk]
    simp only [Option.some_inj]
  | @deleted m k' hk =>
    show (cache.erase k')[k]? = if m.key? = some k then none else cache[k]?
    rw [KeyedMap.getElem?_erase_eq, hk]
    simp only [Option.some_inj]
  | restarted hes => exact (getElem?_ofList_eq _ k).trans (findRev?_keyed hes k)

/-- Objects that are put in have a namespace when the others have one. -/
theorem scoped_of_dispatch (h : cache.Scoped namespaced) (he : e.Coherent namespaced)
    (hd : dispatch? cache e = some (cs, cache')) : cache'.Scoped namespaced := by
  cases dispatched hd with
  | @applied m k hk =>
    intro k' m' hm'
    rw [KeyedMap.getElem?_insert_eq] at hm'
    split at hm'
    · rename_i heq
      exact heq ▸ he.isSome_scope List.mem_cons_self hk
    · exact h k' m' hm'
  | deleted hk =>
    intro k' m' hm'
    rw [KeyedMap.getElem?_erase_eq] at hm'
    split at hm'
    · cases hm'
    · exact h k' m' hm'
  | @restarted ms es hes =>
    intro k m hm
    obtain ⟨hmem, hk⟩ := (mem_of_keyed? hes).mp ((getElem?_ofList hes he.distinct).mp hm)
    exact he.isSome_scope hmem hk

/-! ## The truth of the reports -/

/-- The reports of a new list: first the objects that are gone, then those that are there. -/
structure Relists (cache : Cache) (ms : List Manifest) (gone : List Manifest)
    (told : List Callback) : Prop where
  /-- Gone are the objects of the cache whose keys are not in the list. -/
  missing (k : Key) (m : Manifest) :
    m ∈ gone ∧ m.key? = some k ↔ cache[k]? = some m ∧ ∀ m' ∈ ms, m'.key? ≠ some k
  /-- No key is reported as gone twice. -/
  distinct : gone.Pairwise fun m m' => m.key? ≠ m'.key?
  /-- Each object of the list is reported once, in the order of the list, -/
  subjects : told.map Callback.subject = ms
  /-- and as one that is there. -/
  present : ∀ cb ∈ told, cb.isDelete = false

/-- What the reports of an event say about the cache before it. -/
structure Truthful (cache : Cache) (e : Event) (cs : List Callback) : Prop where
  /-- What is added was not there. -/
  adds (m : Manifest) : .add m ∈ cs → ∃ k, m.key? = some k ∧ cache[k]? = none
  /-- What is updated was there, in its old state and under the same key. -/
  updates (old m : Manifest) : .update old m ∈ cs → ∃ k, m.key? = some k ∧ cache[k]? = some old
  /-- A new list reports what is gone and what is there, and nothing else. -/
  relists (ms : List Manifest) : e = .restarted ms →
    ∃ gone told, cs = gone.map .delete ++ told ∧ Relists cache ms gone told

theorem report_of_none (h : cache.Scoped namespaced) {k : Key} (hk : k.scope.isSome = namespaced)
    (hc : cache[k]? = none) (m : Manifest) : cache.report k m = .add m := by
  have hfind := Cache.find?_of_scoped fun k' m' hm' => (h k' m' hm').trans hk.symm
  simp only [Cache.report, hfind, hc]

theorem report_of_some (h : cache.Scoped namespaced) {k : Key} (hk : k.scope.isSome = namespaced)
    {old : Manifest} (hc : cache[k]? = some old) (m : Manifest) :
    cache.report k m = .update old m := by
  have hfind := Cache.find?_of_scoped fun k' m' hm' => (h k' m' hm').trans hk.symm
  simp only [Cache.report, hfind, hc]

theorem relists_restarted (h : cache.OwnKeys) {ms : List Manifest} {es : List (Key × Manifest)}
    (hes : Cache.keyed? ms = some es) :
    Relists cache ms (cache.missing (es.map (·.1))) (es.map fun p => cache.report p.1 p.2) := by
  refine ⟨fun k m => ?_, ?_, ?_, fun cb hcb => ?_⟩
  · rw [mem_missing]
    constructor
    · rintro ⟨⟨k', hc, hk'⟩, hk⟩
      have heq : k' = k := Option.some.inj ((h k' m hc).symm.trans hk)
      subst heq
      exact ⟨hc, fun m' hm' hkey => hk' ((mem_keys_iff hes).mpr ⟨m', hm', hkey⟩)⟩
    · rintro ⟨hc, hno⟩
      refine ⟨⟨k, hc, fun hk => ?_⟩, h k m hc⟩
      obtain ⟨m', hm', hkey⟩ := (mem_keys_iff hes).mp hk
      exact hno m' hm' hkey
  · have hkey : ∀ (k : Key) (m : Manifest),
        (cache.filter fun k _ => !(es.map (·.1)).contains k)[k]? = some m →
          m.key?.getD default = k := by
      intro k m hm
      rw [Std.ExtTreeMap.getElem?_filter', Option.filter_eq_some_iff] at hm
      rw [h k m hm.1]
      rfl
    exact (KeyedMap.pairwise_values (fun m : Manifest => m.key?.getD default) hkey).imp
      fun hab heq => hab (congrArg (·.getD default) heq)
  · have hall := Itemwise.mapM_eq_some_iff.mp hes
    clear hes
    induction hall with
    | nil => rfl
    | cons hp _ ih =>
      obtain ⟨k, -, rfl⟩ := Option.map_eq_some_iff.mp hp
      rw [List.map_cons, List.map_cons, subject_report, ih]
  · obtain ⟨p, -, rfl⟩ := List.mem_map.mp hcb
    exact isDelete_report cache p.1 p.2

/-- Every report on an object that is there is made by `report`. -/
theorem exists_report (he : e.Coherent namespaced) (hd : dispatch? cache e = some (cs, cache'))
    {cb : Callback} (hcb : cb ∈ cs) (hpresent : cb.isDelete = false) :
    ∃ k m, m.key? = some k ∧ k.scope.isSome = namespaced ∧ cb = cache.report k m := by
  cases dispatched hd with
  | @applied m k hk =>
    exact ⟨k, m, hk, he.isSome_scope List.mem_cons_self hk, List.mem_singleton.mp hcb⟩
  | deleted hk =>
    rw [List.mem_singleton.mp hcb] at hpresent
    cases hpresent
  | @restarted ms es hes =>
    rcases List.mem_append.mp hcb with hcb | hcb
    · obtain ⟨m, -, rfl⟩ := List.mem_map.mp hcb
      cases hpresent
    · obtain ⟨⟨k, m⟩, hp, rfl⟩ := List.mem_map.mp hcb
      obtain ⟨hm, hk⟩ := (mem_of_keyed? hes).mp hp
      exact ⟨k, m, hk, he.isSome_scope hm hk, rfl⟩

/-- As long as the objects are coherent, the reports of an event are true. -/
theorem truthful_of_dispatch (h : cache.OwnKeys) (hs : cache.Scoped namespaced)
    (he : e.Coherent namespaced) (hd : dispatch? cache e = some (cs, cache')) :
    Truthful cache e cs := by
  refine ⟨fun m hm => ?_, fun old m hm => ?_, fun ms hms => ?_⟩
  · obtain ⟨k, m', hk, hscope, heq⟩ := exists_report he hd hm rfl
    cases hc : cache[k]? with
    | some old =>
      rw [report_of_some hs hscope hc] at heq
      cases heq
    | none =>
      rw [report_of_none hs hscope hc] at heq
      cases heq
      exact ⟨k, hk, hc⟩
  · obtain ⟨k, m', hk, hscope, heq⟩ := exists_report he hd hm rfl
    cases hc : cache[k]? with
    | none =>
      rw [report_of_none hs hscope hc] at heq
      cases heq
    | some old' =>
      rw [report_of_some hs hscope hc] at heq
      cases heq
      exact ⟨k, hk, hc⟩
  · subst hms
    cases dispatched hd with
    | restarted hes => exact ⟨_, _, rfl, relists_restarted h hes⟩

/-! ## Histories -/

/-- After every history each object is under its own key, and the reports give the cache back. -/
theorem replay_of_history {es : List Event} {cbs : List Callback}
    (h : history? es = some (cbs, cache)) :
    cbs.foldl Cache.replay ∅ = cache ∧ cache.OwnKeys := by
  refine Runs.induction (motive := fun _ s => s.1.foldl Cache.replay ∅ = s.2 ∧ s.2.OwnKeys)
    ⟨rfl, fun k m hm => by simp at hm⟩ ?_ h
  rintro es ⟨cbs, cache⟩ e s' - ⟨hcopy, hown⟩ he
  obtain ⟨⟨cs, cache'⟩, hd, rfl⟩ := Option.map_eq_some_iff.mp he
  obtain ⟨hreplay, hown'⟩ := replay_of_dispatch hown hd
  refine ⟨?_, hown'⟩
  rw [List.foldl_append, hcopy]
  exact hreplay

/-- What the cache holds after a history can be told from the events alone. -/
theorem getElem?_of_history {es : List Event} {cbs : List Callback}
    (h : history? es = some (cbs, cache)) (k : Key) :
    cache[k]? = es.foldl (fun before e => e.leaves k before) none := by
  refine Runs.induction
    (motive := fun es s => s.2[k]? = es.foldl (fun before e => e.leaves k before) none) rfl ?_ h
  rintro es ⟨cbs, cache⟩ e s' - ih he
  obtain ⟨⟨cs, cache'⟩, hd, rfl⟩ := Option.map_eq_some_iff.mp he
  rw [List.foldl_append, ← ih]
  exact getElem?_of_dispatch hd k

/-- After every history of coherent events the keys have all a namespace or all none. -/
theorem scoped_of_history {es : List Event} (hes : ∀ e ∈ es, e.Coherent namespaced)
    {cbs : List Callback} (h : history? es = some (cbs, cache)) : cache.Scoped namespaced := by
  refine Runs.induction
    (motive := fun es s => (∀ e ∈ es, e.Coherent namespaced) → s.2.Scoped namespaced)
    (fun _ k m hm => by simp at hm) ?_ h hes
  rintro es ⟨cbs, cache⟩ e s' - ih he hes
  obtain ⟨⟨cs, cache'⟩, hd, rfl⟩ := Option.map_eq_some_iff.mp he
  have hbefore := ih fun e' he' => hes e' (List.mem_append_left _ he')
  exact scoped_of_dispatch hbefore (hes e (by simp)) hd

theorem exists_history {es : List Event} (hes : ∀ e ∈ es, e.Named) :
    ∃ cbs cache, history? es = some (cbs, cache) := by
  induction es using List.reverseRecOn with
  | nil => exact ⟨[], ∅, rfl⟩
  | append_singleton es e ih =>
    obtain ⟨cbs, cache, h⟩ := ih fun e' he' => hes e' (List.mem_append_left _ he')
    obtain ⟨cs, cache', hd⟩ := exists_dispatch cache (hes e (by simp))
    refine ⟨cbs ++ cs, cache', Runs.concat_eq_some_iff.mpr ⟨_, h, ?_⟩⟩
    exact Option.map_eq_some_iff.mpr ⟨_, hd, rfl⟩

/-- Whatever events come to an empty cache, as long as their objects have names, the cache holds
after each of them what they say, and the reports give it back. If moreover the events are coherent,
the reports of each are true of the cache before it. -/
theorem reports_tell_history (es : List Event) (e : Event) (hnamed : ∀ e' ∈ es ++ [e], e'.Named) :
    ∃ cbs cache cs cache', history? es = some (cbs, cache) ∧ dispatch? cache e = some (cs, cache') ∧
      history? (es ++ [e]) = some (cbs ++ cs, cache') ∧
      cbs.foldl Cache.replay ∅ = cache ∧ (cbs ++ cs).foldl Cache.replay ∅ = cache' ∧
      (∀ k : Key, cache'[k]? = (es ++ [e]).foldl (fun before e => e.leaves k before) none) ∧
      ((∃ namespaced, ∀ e' ∈ es ++ [e], e'.Coherent namespaced) → Truthful cache e cs) := by
  obtain ⟨cbs, cache, h⟩ := exists_history fun e' he' => hnamed e' (List.mem_append_left _ he')
  obtain ⟨cs, cache', hd⟩ := exists_dispatch cache (hnamed e (by simp))
  have h' : history? (es ++ [e]) = some (cbs ++ cs, cache') :=
    Runs.concat_eq_some_iff.mpr ⟨_, h, Option.map_eq_some_iff.mpr ⟨_, hd, rfl⟩⟩
  refine ⟨cbs, cache, cs, cache', h, hd, h', (replay_of_history h).1, (replay_of_history h').1,
    getElem?_of_history h', ?_⟩
  rintro ⟨namespaced, hcoherent⟩
  have hscoped := scoped_of_history (fun e' he' => hcoherent e' (List.mem_append_left _ he')) h
  exact truthful_of_dispatch (replay_of_history h).2 hscoped (hcoherent e (by simp)) hd

/-- An object of which only the place, the name and the labels are known. -/
def labelled (scope : Option String) (name : String) (labels : TextMap String) : Manifest :=
  ⟨none, { Cluster.Metadata.empty with name := some name, scope, labels := some labels }, .obj []⟩

/-- Two objects come, and then a list that has only one of them, changed, and another one. -/
def relisted : List Event :=
  [.applied (labelled (some "default") "a" ∅), .applied (labelled (some "default") "b" ∅),
    .restarted [labelled (some "default") "a" ((∅ : TextMap String).insert "app" "web"),
      labelled (some "default") "c" ∅]]

theorem reports_tell_relisted :
    (∀ e ∈ relisted, e.Named) ∧ (∀ e ∈ relisted, e.Coherent true) ∧
      ∃ cbs cache before cs, history? relisted = some (cbs, cache) ∧
        cbs.foldl Cache.replay ∅ = cache ∧
        Truthful before (.restarted [labelled (some "default") "a"
          ((∅ : TextMap String).insert "app" "web"), labelled (some "default") "c" ∅]) cs := by
  have hnamed : ∀ e ∈ relisted, e.Named := by
    simp [relisted, Event.Named, Event.objects, labelled]
  have hcoherent : ∀ e ∈ relisted, e.Coherent true := by
    simp [relisted, Event.objects, labelled, Manifest.key?, Event.coherent_iff]
  obtain ⟨_, before, cs, cache, -, -, hend, -, hreplay, -, htrue⟩ := reports_tell_history
    [.applied (labelled (some "default") "a" ∅), .applied (labelled (some "default") "b" ∅)]
    (.restarted [labelled (some "default") "a" ((∅ : TextMap String).insert "app" "web"),
      labelled (some "default") "c" ∅]) hnamed
  exact ⟨hnamed, hcoherent, _, cache, before, cs, hend, hreplay, htrue ⟨true, hcoherent⟩⟩

end ClusterFeed.Watch
