import ClusterFeed.Proofs.Buffer.Duty
import ClusterFeed.Proofs.Control.Ending

/-!
# Informers without a place

A feed starts an informer for each entry of its list of types, but has only one place per type. As
long as no two entries name the same type each informer has its place and is stopped with the feed,
so that the queue is closed and the flush loop ends by itself.

If two entries name the same type the first of their informers loses its place to the second. It
goes on, nobody stops it, and the queue stays open for it. As long as it runs the flush loop does
not end, and the end of the feed, which waits for the loop, does not come.

The place is the entry that `start_runtime` makes for an informer, and the end is `shutdown` with
`final_flush`.
-/

namespace ClusterFeed

open Cluster (Notice)
open Time (Instant)
open Watch (Informer)

/-! ## Informers grow older -/

namespace Watch.Informer

/-- The informer is the other one at a later time: it follows the same type, and if it had ended it
has not begun to run again. -/
structure Ages (i' i : Informer) : Prop where
  resource : i'.resource = i.resource
  running : i'.isRunning = true → i.isRunning = true

variable {i : Informer}

theorem Ages.refl (i : Informer) : i.Ages i := ⟨rfl, id⟩

theorem resource_onNotice (i : Informer) (n : Cluster.Notice) :
    (i.onNotice n).2.resource = i.resource := by
  unfold onNotice
  split
  · cases n with
    | applied m =>
      dsimp only
      split
      · exact resource_handle i _ _
      · rfl
    | deleted m =>
      dsimp only
      split
      · exact resource_handle i _ _
      · rfl
    | _ => rfl
  · rfl

theorem resource_onNotices (i : Informer) (ns : List Cluster.Notice) :
    (i.onNotices ns).2.resource = i.resource := by
  induction ns generalizing i with
  | nil => rfl
  | cons n ns ih => exact (ih _).trans (resource_onNotice i n)

/-- Only an informer that runs has a watch to read. -/
theorem isRunning_of_isConnected (h : i.isConnected = true) : i.isRunning = true := by
  unfold isConnected at h
  unfold isRunning
  split at h
  · simp_all
  · simp_all
  · cases h

theorem ages_hear (path : String) (notices : List Notice) (i : Informer) :
    (Control.Feed.hear path notices i).2.Ages i := by
  unfold Control.Feed.hear
  split
  · rename_i h
    have hconnected := (Bool.and_eq_true_iff.mp h).1
    exact ⟨resource_onNotices i notices, fun _ => isRunning_of_isConnected hconnected⟩
  · exact .refl i

/-- An informer that has ended does not go on. -/
theorem ages_resume {σ : Type} (c : Cluster.Access σ) (i : Informer) (s : σ) :
    (i.resume c s).2.1.Ages i := by
  refine ⟨resource_resume c i s, fun hrun => ?_⟩
  cases hphase : i.phase with
  | ended =>
    unfold resume ask at hrun
    rw [hphase] at hrun
    exact hrun
  | _ =>
    unfold isRunning
    rw [hphase]

end Watch.Informer

/-! ## What comes into the queue by the rules -/

namespace Watch.Inlet

variable {w : WatchedType}

/-- Of a report at most one change comes into the queue. -/
theorem take_intake (now : Instant) (i : Inlet) (cb : Callback) :
    (i.take w now cb).intake = i.intake ∨
      ∃ c : Change, c.Built ∧ i.intake.offer? c = some (i.take w now cb).intake := by
  have htaken := taken_take w now i cb
  generalize i.take w now cb = i' at htaken ⊢
  cases htaken with
  | queued c hchange _ _ hoffer =>
    have hbuilt : c.Built := (upsert_or_delete hchange).imp And.right And.right
    exact .inr ⟨c, hbuilt, hoffer⟩
  | passed => exact .inl rfl
  | lost => exact .inl rfl
  | lostTwice => exact .inl rfl

/-- The loop that reads the queue comes by the rules to what its informers report. -/
theorem comes_takeAll {l : FlushLoop} (hrunning : l.isEnded = false) (now : Instant) {i : Inlet}
    (hi : i.intake = l.intake) (cs : List Callback) :
    Duty.Comes l { l with intake := (i.takeAll w now cs).intake } := by
  induction cs generalizing l i with
  | nil =>
    show Duty.Comes l { l with intake := i.intake }
    rw [hi]
    exact .refl l
  | cons cb cs ih =>
    have hfirst : Duty.Comes l { l with intake := (i.take w now cb).intake } := by
      rcases i.take_intake (w := w) now cb with hsame | ⟨c, hbuilt, hoffer⟩
      · rw [hsame, hi]
        exact .refl l
      · rw [hi] at hoffer
        exact Duty.comes_arrive hrunning hoffer hbuilt
    exact hfirst.trans (ih (l := { l with intake := (i.take w now cb).intake }) hrunning rfl)

end Watch.Inlet

namespace Control.Feed

variable {σ : Type} {f f' f'' : Feed}

/-- The feed is the other one at a later time: it has the same informers in the same places, and
none that had ended has begun to run again. -/
structure Later (f' f : Feed) : Prop where
  strays : f'.strays.map Informer.resource = f.strays.map Informer.resource
  informers : ∀ gvr : Gvr,
    f'.informers[gvr]?.map Informer.resource = f.informers[gvr]?.map Informer.resource
  stray : f'.strays.any Informer.isRunning = true → f.strays.any Informer.isRunning = true
  runs : ∀ gvr, f'.runs gvr = true → f.runs gvr = true

/-- Each informer is in the place of its type. -/
def Placed (f : Feed) : Prop :=
  ∀ (gvr : Gvr) (i : Informer), f.informers[gvr]? = some i → i.resource.gvr = gvr

theorem Later.trans (h : f''.Later f') (h' : f'.Later f) : f''.Later f :=
  ⟨h.strays.trans h'.strays, fun gvr => (h.informers gvr).trans (h'.informers gvr),
    h'.stray ∘ h.stray, fun gvr => h'.runs gvr ∘ h.runs gvr⟩

theorem SameInformers.later (h : f'.SameInformers f) : f'.Later f := by
  rw [h]
  exact ⟨rfl, fun _ => rfl, id, fun _ => id⟩

/-- The list of all types does not change. -/
theorem Later.resources (h : f'.Later f) :
    f'.allInformers.map Informer.resource = f.allInformers.map Informer.resource := by
  unfold allInformers
  rw [List.map_append, List.map_append, h.strays, KeyedMap.map_values_eq h.informers]

theorem Later.running (h : f'.Later f) (hrun : f'.allInformers.any Informer.isRunning = true) :
    f.allInformers.any Informer.isRunning = true := by
  rw [any_isRunning_iff] at hrun ⊢
  exact hrun.imp h.stray fun ⟨gvr, hgvr⟩ => ⟨gvr, h.runs gvr hgvr⟩

theorem Later.placed (h : f'.Later f) (hf : f.Placed) : f'.Placed := by
  intro gvr i hi
  have hresource := h.informers gvr
  rw [hi, Option.map_some] at hresource
  obtain ⟨j, hj, hsame⟩ := Option.map_eq_some_iff.mp hresource.symm
  rw [← hsame]
  exact hf gvr j hj

theorem later_hearStrays (path : String) (notices : List Notice) (now : Instant) (f : Feed) :
    (f.hearStrays path notices now).Later f := by
  have hall : ∀ (heard : List (WatchedType × List Watch.Callback × Informer)) (g : Feed),
      (heard.foldl (fun f h => f.deliver h.1 now h.2.1) g).SameInformers g := by
    intro heard
    induction heard with
    | nil => exact .refl
    | cons h heard ih => exact fun g => (ih _).trans (sameInformers_deliver g _ _ _)
  refine (hall _ _).later.trans ⟨?_, fun _ => rfl, fun hrun => ?_, fun _ => id⟩
  · simp only [List.map_map]
    exact List.map_congr_left fun i _ => (Informer.ages_hear path notices i).resource
  · simp only [List.map_map, List.any_map] at hrun
    obtain ⟨i, hi, hrunning⟩ := List.any_eq_true.mp hrun
    exact List.any_eq_true.mpr ⟨i, hi, (Informer.ages_hear path notices i).running hrunning⟩

/-- An informer of a type is followed by itself at a later time. -/
theorem Later.insert (h : f'.Later f) {gvr : Gvr} {i i' : Informer}
    (hi : f.informers[gvr]? = some i) (hages : i'.Ages i) :
    ({ f' with informers := f'.informers.insert gvr i' } : Feed).Later f := by
  refine ⟨h.strays, fun gvr' => ?_, h.stray, fun gvr' hrun => ?_⟩
  · rw [KeyedMap.getElem?_insert_eq]
    by_cases hg : gvr = gvr'
    · subst hg
      rw [if_pos rfl, hi, Option.map_some, Option.map_some, hages.resource]
    · rw [if_neg hg]
      exact h.informers gvr'
  · unfold Feed.runs at hrun
    rw [KeyedMap.getElem?_insert_eq] at hrun
    by_cases hg : gvr = gvr'
    · subst hg
      rw [if_pos rfl] at hrun
      unfold Feed.runs
      rw [hi]
      exact hages.running hrun
    · rw [if_neg hg] at hrun
      exact h.runs gvr' hrun

theorem later_hearPlaced (path : String) (notices : List Notice) (now : Instant) (f : Feed) :
    (f.hearPlaced path notices now).Later f := by
  refine List.foldlRecOn (motive := fun g : Feed => g.Later f) f.informers.toList _
    (SameInformers.refl f).later ?_
  intro g hg e he
  have hplace := Std.ExtTreeMap.mem_toList_iff_getElem?_eq_some.mp he
  have hgrown := hg.insert hplace (Informer.ages_hear path notices e.2)
  exact (sameInformers_deliver _ (hear path notices e.2).2.resource now
    (hear path notices e.2).1).later.trans hgrown

theorem later_seat {place : Seat} {i i' : Informer} (h : f.informerAt? place = some i)
    (hages : i'.Ages i) : (f.seat i' place).Later f := by
  cases place with
  | placed gvr => exact (SameInformers.refl f).later.insert h hages
  | stray n =>
    obtain ⟨hlt, hi⟩ := List.getElem?_eq_some_iff.mp h
    refine ⟨?_, fun _ => rfl, fun hrun => ?_, fun _ => id⟩
    · refine (List.map_set).trans ?_
      rw [hages.resource, ← hi, ← List.getElem_map Informer.resource (h := by simpa using hlt)]
      exact List.set_getElem_self _
    · obtain ⟨j, hj, hrunning⟩ := List.any_eq_true.mp hrun
      rcases List.mem_or_eq_of_mem_set hj with hj | rfl
      · exact List.any_eq_true.mpr ⟨j, hj, hrunning⟩
      · exact List.any_eq_true.mpr ⟨i, hi ▸ List.getElem_mem hlt, hages.running hrunning⟩

/-! ## The queue stays as open as it was -/

/-- Nothing comes into the queue of an ended loop, but it is closed. -/
theorem loop_deliver_of_ended (hended : f.loop.isEnded = true) (w : WatchedType) (now : Instant)
    (cs : List Watch.Callback) :
    (f.deliver w now cs).loop = { f.loop with intake := f.loop.intake.close } := by
  have hinlet : f.inlet.intake = f.loop.intake.close := by
    unfold inlet
    rw [hended]
    rfl
  obtain ⟨chs, hgrows⟩ := f.inlet.exists_grows_takeAll (w := w) now cs
  have hclosed : f.inlet.intake.isOpen = false := by rw [hinlet]; rfl
  show { f.loop with intake := (f.inlet.takeAll w now cs).intake } = _
  rw [hgrows.intake, hgrows.closed hclosed, List.append_nil, hinlet]

/-- What is put into the queue comes into it by the rules. -/
theorem comes_deliver (f : Feed) (w : WatchedType) (now : Instant) (cs : List Watch.Callback) :
    Duty.Comes f.loop (f.deliver w now cs).loop := by
  cases hended : f.loop.isEnded with
  | false =>
    have hinlet : f.inlet.intake = f.loop.intake := by
      unfold inlet
      rw [hended]
      rfl
    exact f.inlet.comes_takeAll hended now hinlet cs
  | true =>
    rw [loop_deliver_of_ended hended]
    exact Duty.comes_close f.loop

theorem comes_closeIfAbandoned (f : Feed) : Duty.Comes f.loop f.closeIfAbandoned.loop := by
  unfold closeIfAbandoned
  split
  · exact .refl f.loop
  · exact Duty.comes_close f.loop

/-- The loop has come by the rules to be as it is, is as it should be, and the queue is as open as
it was. -/
structure Steady (f' f : Feed) : Prop where
  loop : f'.loop.Sound
  queue : f'.loop.intake.isOpen = f.loop.intake.isOpen
  comes : Duty.Comes f.loop f'.loop

theorem Steady.trans (h : f''.Steady f') (h' : f'.Steady f) : f''.Steady f :=
  ⟨h.loop, h.queue.trans h'.queue, h'.comes.trans h.comes⟩

theorem Steady.refl (h : f.loop.Sound) : f.Steady f := ⟨h, rfl, .refl f.loop⟩

theorem steady_deliver (h : f.loop.Sound) (w : WatchedType) (now : Instant)
    (cs : List Watch.Callback) : (f.deliver w now cs).Steady f := by
  refine ⟨sound_deliver h w now cs, ?_, comes_deliver f w now cs⟩
  obtain ⟨chs, hgrows⟩ := f.inlet.exists_grows_takeAll (w := w) now cs
  have hopen : (f.deliver w now cs).loop.intake.isOpen = f.inlet.intake.isOpen := by
    show (f.inlet.takeAll w now cs).intake.isOpen = _
    rw [hgrows.intake]
  rw [hopen, isOpen_inlet]
  cases hended : f.loop.isEnded with
  | false => exact Bool.and_true _
  | true =>
    -- an ended loop has found its queue closed before
    rw [(h.ended hended).1]
    rfl

theorem steady_settle (h : f.loop.Sound) (send : Option (Send σ)) (s : σ) :
    (f.settle send s).1.Steady f :=
  ⟨sound_settle h send s, FlushLoop.isOpen_settle (sendOrRefuse send) f.loop.turnsLeft f.loop s,
    Duty.comes_settle (sendOrRefuse send) f.loop.turnsLeft f.loop s⟩

theorem steady_askOnce (o : Outside σ) (is : List Informer) (s : σ) (h : f.loop.Sound) :
    (askOnce o is f s).2.1.Steady f := by
  induction is generalizing f s with
  | nil => exact .refl h
  | cons i is ih =>
    have hone := steady_deliver h (i.ask o.cluster s).2.1.resource
      (o.now (i.ask o.cluster s).2.2) (i.ask o.cluster s).1
    exact (ih _ hone.loop).trans hone

theorem steady_askAll (o : Outside σ) (send : Option (Send σ)) (fuel : Nat) (is : List Informer)
    (s : σ) (h : f.loop.Sound) : (askAll o send fuel is f s).2.1.Steady f := by
  induction fuel generalizing is f s with
  | zero => exact .refl h
  | succ fuel ih =>
    unfold askAll
    split
    · have hasked := steady_askOnce o is s h
      have hsettled := steady_settle hasked.loop send (askOnce o is f s).2.2
      exact (ih _ _ hsettled.loop).trans (hsettled.trans hasked)
    · exact .refl h

theorem steady_hearStrays (h : f.loop.Sound) (path : String) (notices : List Notice)
    (now : Instant) : (f.hearStrays path notices now).Steady f :=
  List.foldlRecOn (motive := fun g : Feed => g.Steady f) _ _ ⟨h, rfl, .refl f.loop⟩
    fun _ hg _ _ => (steady_deliver hg.loop _ now _).trans hg

theorem steady_hearPlaced (h : f.loop.Sound) (path : String) (notices : List Notice)
    (now : Instant) : (f.hearPlaced path notices now).Steady f := by
  refine List.foldlRecOn (motive := fun g : Feed => g.Steady f) _ _ (.refl h) ?_
  intro g hg e _
  have hsame : ({ g with informers := g.informers.insert e.1 (hear path notices e.2).2 } :
      Feed).Steady f := ⟨hg.loop, hg.queue, hg.comes⟩
  exact (steady_deliver hsame.loop _ now _).trans hsame

theorem steady_seat (h : f.loop.Sound) (i : Informer) (place : Seat) :
    (f.seat i place).Steady f := by
  cases place with
  | placed gvr => exact ⟨h, rfl, .refl f.loop⟩
  | stray n => exact ⟨h, rfl, .refl f.loop⟩

/-- The queue is closed when no informer is left that runs. -/
theorem isOpen_closeIfAbandoned_eq
    (h : f.allInformers.any Informer.isRunning = true → f.loop.intake.isOpen = true) :
    f.closeIfAbandoned.loop.intake.isOpen = f.allInformers.any Informer.isRunning := by
  cases hany : f.allInformers.any Informer.isRunning with
  | true =>
    unfold closeIfAbandoned
    rw [if_pos hany]
    exact h hany
  | false => exact isOpen_closeIfAbandoned hany

/-! ## The informers of a feed -/

/-- How a feed stands to the list of types that it was started for. -/
structure Staffed (types : List WatchedType) (f : Feed) : Prop where
  resources : (f.allInformers.map Informer.resource).Perm types
  placed : f.Placed
  strays : (types.Pairwise fun a b => a.gvr ≠ b.gvr) → f.strays = []
  loop : f.loop.Sound
  queue : f.loop.intake.isOpen = f.allInformers.any Informer.isRunning

theorem Placed.put (h : f.Placed) (i : Informer) : (f.put i).Placed := by
  intro gvr j hj
  have hj : (f.informers.insert i.resource.gvr i)[gvr]? = some j := hj
  rw [KeyedMap.getElem?_insert_eq] at hj
  split at hj
  · cases hj
    assumption
  · exact h gvr j hj

/-- An informer that is put into its place is one more, even if another one loses its place. -/
theorem Placed.perm_put (h : f.Placed) (i : Informer) :
    (f.put i).allInformers.Perm (i :: f.allInformers) := by
  have hvalues := KeyedMap.values_insert_perm (fun i : Informer => i.resource.gvr) h i
  have hput : (f.put i).allInformers = f.strays ++ (f.informers[i.resource.gvr]?.toList ++
      (f.informers.insert i.resource.gvr i).values) := by
    unfold allInformers Feed.put
    dsimp only
    cases f.informers[i.resource.gvr]? with
    | none => rfl
    | some old => exact List.append_assoc f.strays [old] _
  rw [hput]
  exact (hvalues.append_left f.strays).trans List.perm_middle

theorem Placed.foldl_put (h : f.Placed) (is : List Informer) :
    (is.foldl Feed.put f).Placed ∧
      (is.foldl Feed.put f).allInformers.Perm (is ++ f.allInformers) := by
  induction is generalizing f with
  | nil => exact ⟨h, .refl _⟩
  | cons i is ih =>
    obtain ⟨hplaced, hperm⟩ := ih (h.put i)
    refine ⟨hplaced, hperm.trans ?_⟩
    exact ((h.perm_put i).append_left is).trans List.perm_middle

theorem staffed_start (o : Outside σ) (opts : Options) (scope : String) (settings : Settings)
    (types : List WatchedType) (now : Nat) (s : σ) :
    (start o opts scope settings types now s).1.Staffed types := by
  have hstrays := fun htypes : types.Pairwise fun a b => a.gvr ≠ b.gvr =>
    (start_whole o opts scope settings htypes now s).strays
  obtain ⟨hresources, hsame⟩ := askAll_keeps o (transport o opts scope settings)
    Informer.maxRequests (types.map .start) (empty opts scope settings now) s
  have hsteady := steady_askAll o (transport o opts scope settings) Informer.maxRequests
    (types.map .start) s (f := empty opts scope settings now)
    (FlushLoop.sound_start settings.debounce settings.hasTarget (max opts.queueCapacity 1) now)
  -- while the informers ask for their first lists none of them has its place yet
  set asked := askAll o (transport o opts scope settings) Informer.maxRequests
    (types.map .start) (empty opts scope settings now) s
  have hnone : asked.2.1.informers = ∅ := congrArg Feed.informers hsame
  have hall : asked.2.1.allInformers = [] := by
    unfold allInformers
    rw [hnone, show asked.2.1.strays = [] from congrArg Feed.strays hsame]
    rfl
  have hempty : asked.2.1.Placed := fun gvr i hi => by
    rw [hnone, Std.ExtTreeMap.getElem?_empty] at hi
    cases hi
  obtain ⟨hplaced, hperm⟩ := hempty.foldl_put asked.1
  rw [hall, List.append_nil] at hperm
  have hloop := loop_foldl_put asked.1 asked.2.1
  set put := asked.1.foldl Feed.put asked.2.1
  have hopen : put.loop.intake.isOpen = true := by
    rw [hloop]
    exact hsteady.queue
  have hsound : put.closeIfAbandoned.loop.Sound :=
    (fills_closeIfAbandoned put).sound (by rw [hloop]; exact hsteady.loop)
  have hend := steady_settle hsound (transport o opts scope settings) asked.2.2
  have hlater : (start o opts scope settings types now s).1.Later put :=
    ((sameInformers_settle _ _ _).trans (sameInformers_closeIfAbandoned _)).later
  refine ⟨?_, hlater.placed hplaced, hstrays, hend.loop, ?_⟩
  · rw [hlater.resources]
    refine (hperm.map Informer.resource).trans ?_
    rw [hresources, List.map_map]
    exact .of_eq (List.map_id types)
  · refine hend.queue.trans ((isOpen_closeIfAbandoned_eq fun _ => hopen).trans ?_)
    exact (congrArg (·.any Informer.isRunning) (allInformers_closeIfAbandoned put)).symm

/-- A feed whose informers have grown older is staffed as before, once its queue has been closed if
it has to be and its loop has settled. -/
theorem Staffed.settle {types : List WatchedType} (h : f.Staffed types) (hlater : f'.Later f)
    (hsteady : f'.Steady f) (send : Option (Send σ)) (s : σ) :
    (f'.closeIfAbandoned.settle send s).1.Staffed types := by
  have hsame : (f'.closeIfAbandoned.settle send s).1.SameInformers f' :=
    (sameInformers_settle _ _ _).trans (sameInformers_closeIfAbandoned _)
  have hend := steady_settle ((fills_closeIfAbandoned f').sound hsteady.loop) send s
  have hlater' := hsame.later.trans hlater
  refine ⟨?_, hlater'.placed h.placed, fun htypes => ?_, hend.loop, ?_⟩
  · rw [hlater'.resources]
    exact h.resources
  · have hnone := hlater'.strays
    rw [h.strays htypes] at hnone
    exact List.map_eq_nil_iff.mp hnone
  · have hopen : f'.allInformers.any Informer.isRunning = true → f'.loop.intake.isOpen = true := by
      intro hrun
      rw [hsteady.queue, h.queue]
      exact hlater.running hrun
    refine hend.queue.trans ((isOpen_closeIfAbandoned_eq hopen).trans ?_)
    exact (congrArg (·.any Informer.isRunning) (allInformers_closeIfAbandoned f')).symm

theorem Staffed.notify {types : List WatchedType} (h : f.Staffed types) (o : Outside σ)
    (opts : Options) (path : String) (notices : List Notice) (s : σ) :
    (f.notify o opts path notices s).1.Staffed types := by
  have hstrays := steady_hearStrays h.loop path notices (o.now s)
  exact h.settle ((later_hearPlaced path notices (o.now s) _).trans (later_hearStrays _ _ _ f))
    ((steady_hearPlaced hstrays.loop path notices (o.now s)).trans hstrays) _ s

theorem Staffed.resume {types : List WatchedType} (h : f.Staffed types) (o : Outside σ)
    (opts : Options) (place : Seat) (s : σ) : (f.resume o opts place s).1.Staffed types := by
  unfold Feed.resume
  split
  · exact h
  · rename_i i hi
    have hlater := later_seat hi (Informer.ages_resume o.cluster i s)
    have hseat := steady_seat h.loop (i.resume o.cluster s).2.1 place
    exact h.settle ((sameInformers_deliver _ _ _ _).later.trans hlater)
      ((steady_deliver hseat.loop _ _ _).trans hseat) _ _

theorem Staffed.wake {types : List WatchedType} (h : f.Staffed types) (o : Outside σ)
    (opts : Options) (now : Nat) (s : σ) : (f.wake o opts now s).2.1.Staffed types := by
  let woken : Feed := { f with loop := { f.loop with now } }
  have hsettle := steady_settle (f := woken) (h.loop.withNow now)
    (transport o opts f.scope f.settings) s
  have hsettled : (woken.settle (transport o opts f.scope f.settings) s).1.Staffed types :=
    ⟨h.resources, h.placed, h.strays, hsettle.loop, hsettle.queue.trans h.queue⟩
  unfold Feed.wake
  dsimp only
  split
  · split <;> exact ⟨hsettled.resources, hsettled.placed, hsettled.strays, hsettled.loop,
      hsettled.queue⟩
  · exact hsettled

/-! ## The end of a feed -/

/-- What a feed comes to in the course of its life. -/
inductive Life (o : Outside σ) (opts : Options) (scope : String) (settings : Settings)
    (types : List WatchedType) : Feed → Prop
  /-- It starts. -/
  | start (now : Nat) (s : σ) :
    Life o opts scope settings types (Feed.start o opts scope settings types now s).1
  /-- Its informers read their watches. -/
  | notify {f : Feed} (h : Life o opts scope settings types f) (path : String)
    (notices : List Notice) (s : σ) :
    Life o opts scope settings types (f.notify o opts path notices s).1
  /-- One of its informers goes on by itself: it has rested, its watch has been closed, or it asks
  for a list or a watch. -/
  | resume {f : Feed} (h : Life o opts scope settings types f) (place : Seat) (s : σ) :
    Life o opts scope settings types (f.resume o opts place s).1
  /-- Time has passed. -/
  | wake {f : Feed} (h : Life o opts scope settings types f) {now : Nat} (hnow : f.loop.now ≤ now)
    (s : σ) :
    Life o opts scope settings types (f.wake o opts now s).2.1

variable {o : Outside σ} {opts : Options} {scope : String} {settings : Settings}
  {types : List WatchedType}

theorem Life.staffed (h : Life o opts scope settings types f) : f.Staffed types := by
  induction h with
  | start now s => exact staffed_start o opts scope settings types now s
  | notify _ path notices s ih => exact ih.notify o opts path notices s
  | resume _ place s ih => exact ih.resume o opts place s
  | wake _ _ s ih => exact ih.wake o opts _ s

/-- Nothing but the strays runs when the informers in their places have been stopped. -/
theorem any_isRunning_stopInformers_eq (f : Feed) :
    f.stopInformers.allInformers.any Informer.isRunning = f.strays.any Informer.isRunning := by
  unfold allInformers stopInformers
  rw [List.any_append]
  have hplaced : (f.informers.map fun _ i => i.stop).values.any Informer.isRunning = false := by
    rw [List.any_eq_false]
    intro i hi
    obtain ⟨gvr, hgvr⟩ := KeyedMap.mem_values.mp hi
    rw [Std.ExtTreeMap.getElem?_map] at hgvr
    obtain ⟨j, -, rfl⟩ := Option.map_eq_some_iff.mp hgvr
    exact Bool.false_ne_true
  rw [hplaced, Bool.or_false]

theorem Staffed.steady_stopInformers (h : f.Staffed types) :
    f.stopInformers.closeIfAbandoned.loop.Sound ∧
      f.stopInformers.closeIfAbandoned.loop.intake.isOpen =
        f.strays.any Informer.isRunning := by
  have hopen : f.stopInformers.allInformers.any Informer.isRunning = true →
      f.stopInformers.loop.intake.isOpen = true := by
    intro hrun
    rw [any_isRunning_stopInformers_eq] at hrun
    exact h.queue.trans (f.any_isRunning_iff.mpr (.inl hrun))
  exact ⟨(fills_closeIfAbandoned f.stopInformers).sound h.loop,
    (isOpen_closeIfAbandoned_eq hopen).trans (any_isRunning_stopInformers_eq f)⟩

/-- When the informers in their places have been stopped, the loop ends just if no stray runs. -/
theorem Staffed.isEnded_drain (h : f.Staffed types) (o : Outside σ) (opts : Options) (s : σ) :
    (f.drain o opts s).1.loop.isEnded = !f.strays.any Informer.isRunning := by
  obtain ⟨hsound, hopen⟩ := h.steady_stopInformers
  cases hstray : f.strays.any Informer.isRunning with
  | false =>
    rw [hstray] at hopen
    exact hsound.settle_ended (sendOrRefuse (transport o opts f.scope f.settings)) hopen
      (FlushLoop.chores_le_turnsLeft _) s
  | true =>
    -- a loop that had ended would have found its queue closed
    rw [hstray] at hopen
    have hend := steady_settle hsound (transport o opts f.scope f.settings) s
    refine eq_false_of_ne_true fun hended => ?_
    have hclosed := (hend.loop.ended hended).1
    rw [hend.queue, hopen] at hclosed
    cases hclosed

theorem finish?_eq_none_iff (o : Outside σ) (opts : Options) (f : Feed) (s : σ) :
    f.finish? o opts s = none ↔ f.strays.any Informer.isRunning = true := by
  unfold finish?
  dsimp only
  show (if f.strays.any Informer.isRunning = true then none else _) = none ↔ _
  split
  · simp [*]
  · split <;> simp [*]

/-- What becomes of the informers that a feed has started. -/
structure Accounted (types : List WatchedType) (f : Feed) : Prop where
  /-- There is one informer for each entry of the list, in its place or without one. -/
  started : (f.allInformers.map Informer.resource).Perm types
  /-- All of them are in their places just if no two entries name the same type. -/
  placed : f.strays = [] ↔ types.Pairwise fun a b => a.gvr ≠ b.gvr
  /-- Those in their places are stopped with the feed, and no others. -/
  stopped : f.stopInformers.allInformers.any Informer.isRunning =
    f.strays.any Informer.isRunning
  /-- After that the loop comes to its end just if no other informer runs, -/
  ended : ∀ {σ : Type} (o : Outside σ) (opts : Options) (s : σ),
    (f.drain o opts s).1.loop.isEnded = !f.strays.any Informer.isRunning
  /-- and so does the feed. -/
  finished : ∀ {σ : Type} (o : Outside σ) (opts : Options) (s : σ),
    f.finish? o opts s = none ↔ f.strays.any Informer.isRunning = true
  /-- As long as another one runs the loop does not end, whatever comes into the queue, is answered
  by the index or is done to the buffer, and however much time passes. -/
  awaited : f.strays.any Informer.isRunning = true → ∀ (x y : Duty) (es : List Duty.Event),
    x.loop = f.stopInformers.closeIfAbandoned.loop → .close ∉ es → .cancel ∉ es →
    x.run? es = some y → y.loop.isEnded = false

/-- A feed accounts for all its informers, whatever its list of types, at every time of its life. -/
theorem accounted_of_life (h : Life o opts scope settings types f) : f.Accounted types := by
  have hstaffed := h.staffed
  obtain ⟨hsound, hopen⟩ := hstaffed.steady_stopInformers
  refine
    { started := hstaffed.resources
      placed := ⟨fun hnone => ?_, hstaffed.strays⟩
      stopped := any_isRunning_stopInformers_eq f
      ended := hstaffed.isEnded_drain
      finished := fun o opts s => finish?_eq_none_iff o opts f s
      awaited := fun hstray x y es hx hclose hcancel hrun => ?_ }
  -- a type that is named twice has two informers, and its place holds only one
  · have hpairs := KeyedMap.pairwise_values (fun i : Informer => i.resource.gvr) hstaffed.placed
    have hresources := hstaffed.resources
    unfold allInformers at hresources
    rw [hnone, List.nil_append] at hresources
    exact hresources.pairwise (List.pairwise_map.mpr hpairs) fun h => h.symm
  · rw [hstray] at hopen
    have hx' : x.loop.Open := by
      rw [hx]
      exact ⟨hopen, hsound.uncancelled, eq_false_of_ne_true fun hended => by
        rw [(hsound.ended hended).1] at hopen
        cases hopen⟩
    exact (Duty.open_of_run hx' hclose hcancel hrun).running

/-! ### A type that is named twice -/

/-- A cluster and an index that refuse everything. -/
def refusing : Outside Unit where
  cluster := ⟨fun _ s => (⟨503, ""⟩, s), fun _ s => (⟨503, ""⟩, s), fun _ s => (false, s)⟩
  index := ⟨fun _ => false, fun _ _ _ s => (.error (.http "refused"), s), fun s => (default, s),
    fun _ s => (false, s)⟩
  connect := fun s => (.ok (), s)
  prepare := fun _ s => (.ok (), s)
  now := fun _ => ⟨0, 0⟩

/-- The types of pods, of definitions, and of pods again. -/
def podsTwice : List WatchedType := twoTypes ++ [⟨⟨"", "v1", "pods"⟩, "Pod", true⟩]

/-- A feed for them. -/
def doubleFeed : Feed :=
  (start refusing .usual "default" ⟨"http://index", ⟨0⟩, ⟨0⟩, none⟩ podsTwice 0 ()).1

/-- The first informer of the pods is without a place and runs, so that the feed has no end. -/
theorem accounted_doubleFeed :
    Life refusing .usual "default" ⟨"http://index", ⟨0⟩, ⟨0⟩, none⟩ podsTwice doubleFeed ∧
      doubleFeed.Accounted podsTwice ∧ doubleFeed.strays ≠ [] ∧
      doubleFeed.finish? refusing .usual () = none := by
  have hlife : Life refusing .usual "default" ⟨"http://index", ⟨0⟩, ⟨0⟩, none⟩ podsTwice
      doubleFeed := .start 0 ()
  have haccounted := accounted_of_life hlife
  have hstray : doubleFeed.strays.any Informer.isRunning = true := by decide +kernel
  have htwice : ¬ podsTwice.Pairwise fun a b => a.gvr ≠ b.gvr := by decide
  exact ⟨hlife, haccounted, fun hnone => htwice (haccounted.placed.mp hnone),
    (haccounted.finished refusing .usual ()).mpr hstray⟩

end Control.Feed

end ClusterFeed
