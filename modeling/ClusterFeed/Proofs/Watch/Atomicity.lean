import ClusterFeed.Proofs.Watch.Story

/-!
# An event happens as a whole or not at all

An event is handled in many steps: keys are formed, the cache is read and written, and reports go
out one by one. No key can be formed of an object without a name, and then the handling breaks off
where it stands; what it has done until then stays done.

All keys that an event needs are formed before it writes or reports anything. So an event that
breaks off has done nothing, and since all objects in the cache have names, only the objects of the
event itself can break it off.

The handling is that of `dispatch`.
-/

namespace ClusterFeed.Watch

open Cluster (Manifest Key)

/-- What there is in the middle of an event: the cache as it stands, and what has been reported. -/
structure Course where
  /-- The cache. -/
  cache : Cache
  /-- The reports, the oldest first. -/
  told : List Callback

/-- A part of the handling of an event, which may break off. -/
abbrev Handling := OptionT (StateM Course)

namespace Handling

/-- Lets a part happen; none when it breaks off. What has been done comes with it in any case. -/
def perform {α : Type} (x : Handling α) (s : Course) : Option α × Course := x.run.run s

/-- Forms the key of an object. -/
def keyOf (m : Manifest) : Handling Key :=
  match m.key? with
  | some k => pure k
  | none => failure

/-- Forms the key of an object and keeps the object with it. -/
def withKey (m : Manifest) : Handling (Key × Manifest) := do
  return (← keyOf m, m)

/-- Searches the cache. -/
def find (k : Key) : Handling (Option Manifest) := do
  return (← get).cache.find? k

/-- All objects of the cache. -/
def cached : Handling (List Manifest) := do
  return (← get).cache.values

/-- Makes the cache another one. -/
def write (f : Cache → Cache) : Handling Unit := modify fun s => { s with cache := f s.cache }

/-- Reports something. -/
def report (cb : Callback) : Handling Unit := modify fun s => { s with told := s.told ++ [cb] }

/-- Writes what an event says into the cache. The keys are formed here once more. -/
def apply : Event → Handling Unit
  | .applied m => do
    let k ← keyOf m
    write (·.insert k m)
  | .deleted m => do
    let k ← keyOf m
    write (·.erase k)
  | .restarted ms => do
    let es ← ms.mapM withKey
    write fun _ => .ofList es

end Handling

/-- The report on an object that is there, given what was there before it. -/
def Callback.on (old : Option Manifest) (m : Manifest) : Callback :=
  match old with
  | some old => .update old m
  | none => .add m

open Handling in
/-- The handling of an event, step by step. -/
def handle : Event → Handling Unit
  | .applied m => do
    let old ← find (← keyOf m)
    apply (.applied m)
    report (.on old m)
  | .deleted m => do
    apply (.deleted m)
    report (.delete m)
  | .restarted ms => do
    let listed ← ms.mapM keyOf
    let kept ← (← cached).mapM withKey
    let gone := kept.filter fun e => !listed.contains e.1
    let seen ← ms.mapM fun m => do
      let old ← find (← keyOf m)
      return (old, m)
    apply (.restarted ms)
    gone.forM fun e => report (.delete e.2)
    seen.forM fun e => report (.on e.1 e.2)

/-- The cache after events that begin with an empty one, whether or not some of them broke off. -/
def cacheAfter (es : List Event) : Cache :=
  es.foldl (fun cache e => ((handle e).perform ⟨cache, []⟩).2.cache) ∅

namespace Handling

variable {α β : Type} {s : Course}

/-- The part only looks at the cache: whether or not it breaks off, nothing is done. -/
def Looks (x : Handling α) (f : Cache → Option α) : Prop := ∀ s, x.perform s = (f s.cache, s)

theorem perform_bind (x : Handling α) (f : α → Handling β) (s : Course) :
    (x >>= f).perform s = match x.perform s with
      | (some a, s') => (f a).perform s'
      | (none, s') => (none, s') := by
  unfold perform
  rw [OptionT.run_bind]
  show StateT.run (x.run >>= fun r => r.elim (pure none) fun a => (f a).run) s = _
  rw [StateT.run_bind]
  rcases x.run.run s with ⟨_ | a, s'⟩ <;> rfl

theorem looks_pure (a : α) : Looks (pure a) fun _ => some a := fun _ => rfl

theorem looks_keyOf (m : Manifest) : Looks (keyOf m) fun _ => m.key? := by
  intro s
  unfold keyOf
  cases m.key? <;> rfl

theorem looks_find (k : Key) : Looks (find k) fun cache => some (cache.find? k) := fun _ => rfl

theorem looks_cached : Looks cached fun cache => some cache.values := fun _ => rfl

theorem Looks.bind {x : Handling α} {f : Cache → Option α} {y : α → Handling β}
    {g : α → Cache → Option β} (hx : Looks x f) (hy : ∀ a, Looks (y a) (g a)) :
    Looks (x >>= y) fun cache => (f cache).bind (g · cache) := by
  intro s
  rw [perform_bind, hx s]
  dsimp only
  cases f s.cache with
  | none => rfl
  | some a => exact hy a s

theorem looks_withKey (m : Manifest) : Looks (withKey m) fun _ => m.key?.map (·, m) := by
  have h := (looks_keyOf m).bind fun k => looks_pure (k, m)
  intro s
  rw [Option.map_eq_bind]
  exact h s

/-- To look at each object of a list is to look. -/
theorem looks_mapM {x : Manifest → Handling β} {f : Manifest → Cache → Option β}
    (h : ∀ m, Looks (x m) (f m)) (ms : List Manifest) :
    Looks (ms.mapM x) fun cache => ms.mapM (f · cache) := by
  induction ms with
  | nil => exact fun s => rfl
  | cons m ms ih =>
    have hcons := (h m).bind fun b => ih.bind fun bs => looks_pure (b :: bs)
    intro s
    rw [List.mapM_cons, hcons s]
    dsimp only
    rw [List.mapM_cons]
    rfl

/-- What comes after a look. -/
theorem Looks.perform_bind {x : Handling α} {f : Cache → Option α} (hx : Looks x f)
    (y : α → Handling β) (s : Course) :
    (x >>= y).perform s = (f s.cache).elim (none, s) fun a => (y a).perform s := by
  rw [Handling.perform_bind, hx s]
  cases f s.cache <;> rfl

theorem perform_write (f : Cache → Cache) (s : Course) :
    (write f).perform s = (some (), { s with cache := f s.cache }) := rfl

theorem perform_report (cb : Callback) (s : Course) :
    (report cb).perform s = (some (), { s with told := s.told ++ [cb] }) := rfl

/-- Reports go out one after the other, and none of them breaks off. -/
theorem perform_forM_report (cb : β → Callback) (bs : List β) (s : Course) :
    (bs.forM fun b => report (cb b)).perform s =
      (some (), { s with told := s.told ++ bs.map cb }) := by
  induction bs generalizing s with
  | nil =>
    rw [List.map_nil, List.append_nil]
    rfl
  | cons b bs ih =>
    show (report (cb b) >>= fun _ => bs.forM fun b => report (cb b)).perform s = _
    rw [Handling.perform_bind, perform_report]
    dsimp only
    rw [ih, List.map_cons, List.append_assoc]
    rfl

end Handling

open Handling

variable {cache cache' : Cache} {e : Event} {ms : List Manifest} {es : List (Key × Manifest)}

/-! ## Keys of lists -/

theorem mapM_key? : (Cache.keyed? ms).map (List.map Prod.fst) = ms.mapM Manifest.key? := by
  induction ms with
  | nil => rfl
  | cons m ms ih =>
    unfold Cache.keyed? at ih ⊢
    rw [List.mapM_cons, List.mapM_cons, ← ih]
    cases m.key? with
    | none => rfl
    | some k => cases ms.mapM fun m => m.key?.map (·, m) <;> rfl

theorem isSome_key?_of_keyed? (h : Cache.keyed? ms = some es) : ∀ m ∈ ms, m.key?.isSome := by
  have hall := Itemwise.mapM_eq_some_iff.mp h
  clear h
  induction hall with
  | nil => simp
  | cons he _ ih =>
    obtain ⟨k, hk, -⟩ := Option.map_eq_some_iff.mp he
    intro m hm
    rcases List.mem_cons.mp hm with rfl | hm
    · rw [hk, Option.isSome_some]
    · exact ih m hm

/-- What is found under the keys of a list, when all its objects have names. -/
theorem mapM_find?_of_keyed? (cache : Cache) (h : Cache.keyed? ms = some es) :
    (ms.mapM fun m => m.key?.bind fun k => some (cache.find? k, m)) =
      some (es.map fun e => (cache.find? e.1, e.2)) := by
  have hall := Itemwise.mapM_eq_some_iff.mp h
  rw [Itemwise.mapM_eq_some_iff, List.forall₂_map_right_iff]
  refine hall.imp fun m e he => ?_
  obtain ⟨k, hk, rfl⟩ := Option.map_eq_some_iff.mp he
  rw [hk]
  rfl

/-- The objects of a cache that holds them under their own keys can all be given their keys. -/
theorem keyed?_values (h : cache.OwnKeys) : Cache.keyed? cache.values = some cache.toList := by
  unfold Cache.keyed?
  rw [Itemwise.mapM_eq_some_iff, KeyedMap.values_eq_map_toList, List.forall₂_map_left_iff,
    List.forall₂_same]
  intro e he
  rw [h e.1 e.2 (Std.ExtTreeMap.mem_toList_iff_getElem?_eq_some.mp he)]
  rfl

theorem missing_eq (cache : Cache) (keys : List Key) :
    cache.missing keys = (cache.toList.filter fun e => !keys.contains e.1).map (·.2) := by
  unfold Cache.missing
  rw [KeyedMap.values_eq_map_toList, Std.ExtTreeMap.toList_filter]

/-! ## One event -/

/-- Handled step by step, an event does what it does as a whole, or nothing. -/
theorem perform_handle (h : cache.OwnKeys) (e : Event) (told : List Callback) :
    (handle e).perform ⟨cache, told⟩ = match dispatch? cache e with
      | some (cs, cache') => (some (), ⟨cache', told ++ cs⟩)
      | none => (none, ⟨cache, told⟩) := by
  cases e with
  | applied m =>
    dsimp only [handle, apply, dispatch?]
    simp only [(looks_keyOf m).perform_bind, (looks_find _).perform_bind]
    cases hk : m.key? with
    | none => rfl
    | some k =>
      dsimp only [Option.elim]
      rw [Handling.perform_bind, (looks_keyOf m).perform_bind, hk]
      rfl
  | deleted m =>
    dsimp only [handle, apply, dispatch?]
    rw [Handling.perform_bind, (looks_keyOf m).perform_bind]
    cases hk : m.key? with
    | none => rfl
    | some k => rfl
  | restarted ms =>
    dsimp only [handle, apply, dispatch?]
    rw [(looks_mapM looks_keyOf ms).perform_bind, ← mapM_key?]
    cases hes : Cache.keyed? ms with
    | none => rfl
    | some es =>
      have hkept : (cache.values.mapM fun m => m.key?.map (·, m)) = some cache.toList :=
        keyed?_values h
      have hwritten : (ms.mapM fun m => m.key?.map (·, m)) = some es := hes
      have hseen : ∀ m, Looks (do return (← find (← keyOf m), m))
          fun c => m.key?.bind fun k => some (c.find? k, m) :=
        fun m => (looks_keyOf m).bind fun k => (looks_find k).bind fun old => looks_pure (old, m)
      dsimp only [Option.map, Option.elim]
      rw [looks_cached.perform_bind]
      dsimp only [Option.elim]
      rw [(looks_mapM looks_withKey cache.values).perform_bind]
      simp only [hkept, Option.elim]
      rw [(looks_mapM hseen ms).perform_bind]
      simp only [mapM_find?_of_keyed? cache hes, Option.elim]
      rw [Handling.perform_bind, (looks_mapM looks_withKey ms).perform_bind]
      simp only [hwritten, Option.elim, perform_write]
      rw [Handling.perform_bind, perform_forM_report fun e : Key × Manifest => .delete e.2]
      dsimp only
      rw [perform_forM_report fun e : Option Manifest × Manifest => .on e.1 e.2, List.append_assoc,
        missing_eq, List.map_map, List.map_map]
      rfl

theorem dispatch?_eq_none_iff : dispatch? cache e = none ↔ ¬ e.Named := by
  constructor
  · intro hnone hnamed
    obtain ⟨cs, cache', hd⟩ := exists_dispatch cache hnamed
    rw [hnone] at hd
    cases hd
  · intro hnamed
    cases hd : dispatch? cache e with
    | none => rfl
    | some r =>
      have hkey : ∀ m ∈ e.objects, m.key?.isSome := by
        obtain ⟨cs, cache'⟩ := r
        intro m hm
        cases dispatched hd with
        | applied hk => rw [List.mem_singleton.mp hm, hk, Option.isSome_some]
        | deleted hk => rw [List.mem_singleton.mp hm, hk, Option.isSome_some]
        | restarted hes =>
          exact isSome_key?_of_keyed? hes m hm
      exfalso
      apply hnamed
      intro m hm
      have := hkey m hm
      rwa [Manifest.key?, Option.isSome_map] at this

/-! ## Histories -/

/-- Whatever came before, each object is under its own key. -/
theorem ownKeys_cacheAfter (es : List Event) : (cacheAfter es).OwnKeys := by
  induction es using List.reverseRecOn with
  | nil =>
    intro k m hm
    simp [cacheAfter] at hm
  | append_singleton es e ih =>
    unfold cacheAfter at ih ⊢
    rw [List.foldl_append, List.foldl_cons, List.foldl_nil, perform_handle ih]
    cases hd : dispatch?
        (es.foldl (fun cache e => ((handle e).perform ⟨cache, []⟩).2.cache) ∅) e with
    | none => exact ih
    | some r => exact (replay_of_dispatch ih hd).2

/-- Whatever came before: an event with an object that has no name, wherever it stands in a list,
breaks off with nothing written and nothing reported; every other event comes to its end. -/
theorem event_is_atomic (es : List Event) (e : Event) (told : List Callback) :
    (¬ e.Named ∧ dispatch? (cacheAfter es) e = none ∧
        (handle e).perform ⟨cacheAfter es, told⟩ = (none, ⟨cacheAfter es, told⟩)) ∨
      (e.Named ∧ ∃ cs cache', dispatch? (cacheAfter es) e = some (cs, cache') ∧
        (handle e).perform ⟨cacheAfter es, told⟩ = (some (), ⟨cache', told ++ cs⟩)) := by
  have hrun := perform_handle (ownKeys_cacheAfter es) e told
  by_cases hnamed : e.Named
  · obtain ⟨cs, cache', hd⟩ := exists_dispatch (cacheAfter es) hnamed
    rw [hd] at hrun
    exact .inr ⟨hnamed, cs, cache', hd, hrun⟩
  · have hd : dispatch? (cacheAfter es) e = none := dispatch?_eq_none_iff.mpr hnamed
    rw [hd] at hrun
    exact .inl ⟨hnamed, hd, hrun⟩

end ClusterFeed.Watch
