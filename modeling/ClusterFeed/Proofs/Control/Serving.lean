import ClusterFeed.Proofs.Control.Traffic

/-!
# What a feed serves

A feed is started for certain settings and types, and it serves these as long as it lives: whatever
its informers hear and its flush loop does, they stay as they are. A feed that has been started
watches each of its types once, in their order.

The feed is started by `start_runtime`.
-/

namespace ClusterFeed

open Cluster (Notice Access)
open Time (Instant)
open Watch (Informer Callback)

namespace GvrSet

variable {gs gs' : List Gvr} {g : Gvr}

theorem mem_ofList : g ∈ GvrSet.ofList gs ↔ g ∈ gs := by
  unfold GvrSet.ofList
  rw [← Std.ExtTreeMap.isSome_getElem?_iff_mem,
    KeyedMap.getElem?_foldl_insert (fun g : Gvr => g) fun _ => (),
    Std.ExtTreeMap.getElem?_empty, Option.or_none, Option.isSome_map]
  constructor
  · intro h
    obtain ⟨g', hg'⟩ := Option.isSome_iff_exists.mp h
    obtain ⟨hmem, heq⟩ := Itemwise.mem_of_findRev? hg'
    rwa [← of_decide_eq_true heq]
  · intro h
    cases hf : gs.findRev? fun g' => decide (g' = g) with
    | some g' => rfl
    | none => exact absurd (decide_eq_true rfl) (Itemwise.findRev?_eq_none_iff.mp hf g h)

theorem ofList_eq_iff : GvrSet.ofList gs = GvrSet.ofList gs' ↔ ∀ g, g ∈ gs ↔ g ∈ gs' := by
  constructor
  · intro h g
    rw [← mem_ofList, h, mem_ofList]
  · intro h
    exact Std.ExtTreeMap.ext_mem_unit fun g => by rw [mem_ofList, mem_ofList, h g]

end GvrSet

/-! ## Informers keep to their types -/

namespace Watch.Informer

theorem resource_handle (i : Informer) (e : Event) (next : Phase) :
    (i.handle e next).2.resource = i.resource := by
  unfold handle
  split <;> rfl

theorem resource_onPage (i : Informer) (page : Option (Cluster.Page Cluster.Manifest)) :
    (i.onPage page).2.resource = i.resource := by
  unfold onPage
  split
  · split
    · rfl
    · dsimp only
      split
      · rfl
      · split
        · exact resource_handle i _ _
        · rfl
  · rfl

theorem resource_ask {σ : Type} (c : Access σ) (i : Informer) (s : σ) :
    (i.ask c s).2.1.resource = i.resource := by
  unfold ask
  split
  · exact resource_onPage i _
  · show (i.onOpened _).resource = i.resource
    unfold onOpened
    split <;> rfl
  · rfl

theorem resource_resume {σ : Type} (c : Access σ) (i : Informer) (s : σ) :
    (i.resume c s).2.1.resource = i.resource := by
  unfold resume
  split
  · show i.onRested.resource = i.resource
    unfold onRested
    split <;> rfl
  · show i.onClosed.resource = i.resource
    unfold onClosed
    split <;> rfl
  · exact resource_ask c i s

end Watch.Informer

namespace Control.Feed

/-- The feed has certain settings, belongs to a configuration in a certain namespace, and watches
certain types. -/
structure Serves (f : Feed) (scope : String) (settings : Settings) (types : List WatchedType) :
    Prop where
  settings : f.settings = settings
  scope : f.scope = scope
  watched : f.watched = (GvrSet.ofList (types.map (·.gvr))).keys

instance (f : Feed) (scope : String) (settings : Settings) (types : List WatchedType) :
    Decidable (f.Serves scope settings types) :=
  decidable_of_iff (f.settings = settings ∧ f.scope = scope ∧
      f.watched = (GvrSet.ofList (types.map (·.gvr))).keys)
    ⟨fun h => ⟨h.1, h.2.1, h.2.2⟩, fun h => ⟨h.1, h.2, h.3⟩⟩

/-- The feed is the other one at a later time: it still serves the same. -/
structure Succeeds (f' f : Feed) : Prop where
  settings : f'.settings = f.settings
  scope : f'.scope = f.scope
  watched : f'.watched = f.watched

instance (f' f : Feed) : Decidable (f'.Succeeds f) :=
  decidable_of_iff (f'.settings = f.settings ∧ f'.scope = f.scope ∧ f'.watched = f.watched)
    ⟨fun h => ⟨h.1, h.2.1, h.2.2⟩, fun h => ⟨h.1, h.2, h.3⟩⟩

/-- Only the queue, the buffer and the count of dropped changes are different. -/
def SameInformers (f' f : Feed) : Prop := f' = { f with loop := f'.loop, dropped := f'.dropped }

variable {σ : Type} {f f' f'' : Feed}

theorem length_watched (f : Feed) : f.watched.length = f.informers.size :=
  Std.ExtTreeMap.length_keys

theorem Succeeds.size (h : f'.Succeeds f) : f'.informers.size = f.informers.size := by
  rw [← length_watched, h.watched, length_watched]

theorem Succeeds.refl (f : Feed) : f.Succeeds f := ⟨rfl, rfl, rfl⟩

theorem Succeeds.trans (h : f''.Succeeds f') (h' : f'.Succeeds f) : f''.Succeeds f :=
  ⟨h.settings.trans h'.settings, h.scope.trans h'.scope, h.watched.trans h'.watched⟩

theorem SameInformers.refl (f : Feed) : f.SameInformers f := rfl

theorem SameInformers.trans (h : f''.SameInformers f') (h' : f'.SameInformers f) :
    f''.SameInformers f := by
  unfold SameInformers at *
  rw [h, h']

theorem SameInformers.succeeds (h : f'.SameInformers f) : f'.Succeeds f := by
  rw [h]
  exact ⟨rfl, rfl, rfl⟩

theorem sameInformers_deliver (f : Feed) (w : WatchedType) (now : Instant) (cs : List Callback) :
    (f.deliver w now cs).SameInformers f := rfl

theorem sameInformers_closeIfAbandoned (f : Feed) : f.closeIfAbandoned.SameInformers f := by
  unfold closeIfAbandoned SameInformers
  split <;> rfl

theorem sameInformers_settle (send : Option (Send σ)) (f : Feed) (s : σ) :
    (f.settle send s).1.SameInformers f := rfl

/-! ## A feed that starts -/

/-- However often the informers ask, each keeps its type, and only the queue and the buffer
change. -/
theorem askOnce_keeps (o : Outside σ) (is : List Informer) (f : Feed) (s : σ) :
    (askOnce o is f s).1.map Informer.resource = is.map Informer.resource ∧
      (askOnce o is f s).2.1.SameInformers f := by
  induction is generalizing f s with
  | nil => exact ⟨rfl, .refl f⟩
  | cons i is ih =>
    obtain ⟨hresources, hsame⟩ := ih
      (f.deliver (i.ask o.cluster s).2.1.resource (o.now (i.ask o.cluster s).2.2)
        (i.ask o.cluster s).1) (i.ask o.cluster s).2.2
    refine ⟨?_, hsame.trans (sameInformers_deliver f _ _ _)⟩
    simp only [askOnce, List.map_cons, Informer.resource_ask] at hresources ⊢
    rw [hresources]

theorem askAll_keeps (o : Outside σ) (send : Option (Send σ)) (fuel : Nat) (is : List Informer)
    (f : Feed) (s : σ) :
    (askAll o send fuel is f s).1.map Informer.resource = is.map Informer.resource ∧
      (askAll o send fuel is f s).2.1.SameInformers f := by
  induction fuel generalizing is f s with
  | zero => exact ⟨rfl, .refl f⟩
  | succ fuel ih =>
    unfold askAll
    split
    · obtain ⟨hresources, hsame⟩ := askOnce_keeps o is f s
      obtain ⟨hresources', hsame'⟩ := ih (askOnce o is f s).1
        ((askOnce o is f s).2.1.settle send (askOnce o is f s).2.2).1
        ((askOnce o is f s).2.1.settle send (askOnce o is f s).2.2).2
      exact ⟨hresources'.trans hresources,
        (hsame'.trans (sameInformers_settle send _ _)).trans hsame⟩
    · exact ⟨rfl, .refl f⟩

theorem foldl_put_keeps (is : List Informer) (f : Feed) :
    (is.foldl put f).settings = f.settings ∧ (is.foldl put f).scope = f.scope := by
  induction is generalizing f with
  | nil => exact ⟨rfl, rfl⟩
  | cons i is ih => exact ih (f.put i)

/-- Of informers put into their places one after the other, each type is watched once. -/
theorem watched_foldl_put {is : List Informer} {f : Feed} (h : f.informers = ∅) :
    (is.foldl put f).watched = (GvrSet.ofList (is.map fun i => i.resource.gvr)).keys := by
  unfold watched
  rw [informers_foldl_put, h]
  refine KeyedMap.keys_eq_keys fun g => ?_
  rw [GvrSet.mem_ofList, ← Std.ExtTreeMap.isSome_getElem?_iff_mem,
    KeyedMap.getElem?_foldl_insert (fun i : Informer => i.resource.gvr) fun i => i,
    Std.ExtTreeMap.getElem?_empty, Option.or_none, Option.isSome_map, List.mem_map]
  constructor
  · intro hsome
    obtain ⟨i, hi⟩ := Option.isSome_iff_exists.mp hsome
    obtain ⟨hmem, hgvr⟩ := Itemwise.mem_of_findRev? hi
    exact ⟨i, hmem, of_decide_eq_true hgvr⟩
  · rintro ⟨i, hmem, hgvr⟩
    cases hf : is.findRev? fun i => decide (i.resource.gvr = g) with
    | some i => rfl
    | none => exact absurd (decide_eq_true hgvr) (Itemwise.findRev?_eq_none_iff.mp hf i hmem)

/-- A feed that has been started serves what it was started for. -/
theorem start_serves (o : Outside σ) (opts : Options) (scope : String) (settings : Settings)
    (types : List WatchedType) (now : Nat) (s : σ) :
    (start o opts scope settings types now s).1.Serves scope settings types := by
  obtain ⟨hresources, hsame⟩ := askAll_keeps o (transport o opts scope settings)
    Informer.maxRequests (types.map .start) (empty opts scope settings now) s
  set asked := askAll o (transport o opts scope settings) Informer.maxRequests
    (types.map .start) (empty opts scope settings now) s with hasked
  have hend : (start o opts scope settings types now s).1.Succeeds
      (asked.1.foldl put asked.2.1) :=
    ((sameInformers_settle _ _ _).trans (sameInformers_closeIfAbandoned _)).succeeds
  obtain ⟨hsettings, hscope⟩ := foldl_put_keeps asked.1 asked.2.1
  have hgvrs : asked.1.map (fun i => i.resource.gvr) = types.map (·.gvr) := by
    have := congrArg (List.map WatchedType.gvr) hresources
    rwa [List.map_map, List.map_map, List.map_map] at this
  have hnone : asked.2.1.informers = ∅ := congrArg Feed.informers hsame
  exact ⟨hend.settings.trans (hsettings.trans hsame.succeeds.settings),
    hend.scope.trans (hscope.trans hsame.succeeds.scope),
    hend.watched.trans ((watched_foldl_put hnone).trans (by rw [hgvrs]))⟩

/-! ## A feed that lives on -/

/-- What an informer did in its place leaves the types as they are. -/
theorem succeeds_insert {gvr : Gvr} (h : gvr ∈ f.informers) (i : Informer) :
    ({ f with informers := f.informers.insert gvr i } : Feed).Succeeds f := by
  refine ⟨rfl, rfl, KeyedMap.keys_eq_keys fun g => ?_⟩
  rw [Std.ExtTreeMap.mem_insert]
  constructor
  · rintro (hg | hg)
    · rwa [← Std.LawfulEqCmp.compare_eq_iff_eq.mp hg]
    · exact hg
  · exact Or.inr

theorem hearStrays_succeeds (path : String) (notices : List Notice) (now : Instant) (f : Feed) :
    (f.hearStrays path notices now).Succeeds f := by
  have hall : ∀ (heard : List (WatchedType × List Callback × Informer)) (g : Feed),
      (heard.foldl (fun f h => f.deliver h.1 now h.2.1) g).SameInformers g := by
    intro heard
    induction heard with
    | nil => exact .refl
    | cons h heard ih => exact fun g => (ih _).trans (sameInformers_deliver g _ _ _)
  exact (hall _ _).succeeds.trans ⟨rfl, rfl, rfl⟩

theorem hearPlaced_succeeds (path : String) (notices : List Notice) (now : Instant) (f : Feed) :
    (f.hearPlaced path notices now).Succeeds f := by
  refine List.foldlRecOn (motive := fun g : Feed => g.Succeeds f) f.informers.toList _ (.refl f) ?_
  intro g hg e he
  -- each informer that is put back was in its place before
  have hplace : e.1 ∈ g.informers := by
    rw [← Std.ExtTreeMap.mem_keys]
    show e.1 ∈ g.watched
    rw [hg.watched, watched, Std.ExtTreeMap.mem_keys]
    exact (Std.ExtTreeMap.getElem?_eq_some_iff.mp
      (Std.ExtTreeMap.mem_toList_iff_getElem?_eq_some.mp he)).1
  exact ((sameInformers_deliver _ (hear path notices e.2).2.resource now
    (hear path notices e.2).1).succeeds.trans
      (succeeds_insert hplace (hear path notices e.2).2)).trans hg

/-- A feed whose informers have heard of changes serves what it served. -/
theorem notify_succeeds (o : Outside σ) (opts : Options) (path : String) (notices : List Notice)
    (f : Feed) (s : σ) : (f.notify o opts path notices s).1.Succeeds f :=
  ((sameInformers_settle _ _ _).trans (sameInformers_closeIfAbandoned _)).succeeds.trans
    ((hearPlaced_succeeds _ _ _ _).trans (hearStrays_succeeds _ _ _ _))

theorem seat_succeeds {place : Seat} {i : Informer} (h : f.informerAt? place = some i)
    (i' : Informer) : (f.seat i' place).Succeeds f := by
  cases place with
  | placed gvr => exact succeeds_insert (Std.ExtTreeMap.getElem?_eq_some_iff.mp h).1 i'
  | stray n => exact ⟨rfl, rfl, rfl⟩

/-- A feed with an informer that has gone on by itself serves what it served. -/
theorem resume_succeeds (o : Outside σ) (opts : Options) (place : Seat) (f : Feed) (s : σ) :
    (f.resume o opts place s).1.Succeeds f := by
  unfold resume
  split
  · exact .refl f
  · rename_i i hi
    exact ((sameInformers_settle _ _ _).trans ((sameInformers_closeIfAbandoned _).trans
      (sameInformers_deliver _ _ _ _))).succeeds.trans (seat_succeeds hi _)

/-- A feed that woke serves what it served. -/
theorem wake_succeeds (o : Outside σ) (opts : Options) (now : Nat) (f : Feed) (s : σ) :
    (f.wake o opts now s).2.1.Succeeds f := by
  let woken : Feed := { f with loop := { f.loop with now } }
  have hwoken : woken.SameInformers f := rfl
  have hsettle : (woken.settle (transport o opts f.scope f.settings) s).1.Succeeds f :=
    ((sameInformers_settle _ woken s).trans hwoken).succeeds
  unfold wake
  dsimp only
  split
  · split <;> exact ⟨hsettle.settings, hsettle.scope, hsettle.watched⟩
  · exact hsettle

end Control.Feed

end ClusterFeed
