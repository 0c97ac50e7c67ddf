import ClusterFeed.Proofs.Control.LastFlush
import ClusterFeed.Proofs.Control.Serving

/-!
# Feeds that are started and ended

A feed that was started for types of which no two are the same is whole, and stays so while it lives
on. When everything is stopped `Feed.finish?` ends a whole feed in one go; what it does is a closing
in which the informers are stopped before anything else happens.

A feed is started by `start_runtime` and ended by `shutdown`.
-/

namespace ClusterFeed.Control

open Cluster (Notice)
open Time (Instant)
open Watch (Informer)

variable {σ : Type}

namespace Feed

variable {f f' : Feed} {chs : List Change}

/-! ## Queues without informers -/

theorem any_isRunning_iff (f : Feed) : f.allInformers.any Informer.isRunning = true ↔
    f.strays.any Informer.isRunning = true ∨ ∃ gvr, f.runs gvr = true := by
  unfold allInformers
  rw [List.any_append, Bool.or_eq_true]
  refine or_congr_right ⟨fun h => ?_, fun ⟨gvr, h⟩ => ?_⟩
  · obtain ⟨i, hi, hrun⟩ := List.any_eq_true.mp h
    obtain ⟨gvr, hgvr⟩ := KeyedMap.mem_values.mp hi
    exact ⟨gvr, by rw [runs, hgvr]; exact hrun⟩
  · unfold runs at h
    cases hgvr : f.informers[gvr]? with
    | none => simp [hgvr] at h
    | some i =>
      rw [hgvr] at h
      exact List.any_eq_true.mpr ⟨i, KeyedMap.mem_values.mpr ⟨gvr, hgvr⟩, h⟩

@[simp] theorem allInformers_closeIfAbandoned (f : Feed) :
    f.closeIfAbandoned.allInformers = f.allInformers := by
  unfold closeIfAbandoned
  split <;> rfl

theorem isOpen_closeIfAbandoned (h : f.allInformers.any Informer.isRunning = false) :
    f.closeIfAbandoned.loop.intake.isOpen = false := by
  rw [closeIfAbandoned, if_neg (ne_true_of_eq_false h)]
  rfl

/-- A queue that is closed already if it has to be stays as it is. -/
theorem Whole.closeIfAbandoned_eq (h : f.Whole) : f.closeIfAbandoned = f := by
  unfold closeIfAbandoned
  split
  · rfl
  · rename_i hany
    have hclosed : f.loop.intake.isOpen = false := h.abandoned (eq_false_of_ne_true hany)
    clear h hany
    obtain ⟨settings, scope, informers, strays, ⟨buffer, ⟨capacity, items, isOpen⟩, c, n, d, p⟩,
      dropped, due⟩ := f
    cases hclosed
    rfl

/-! ## A feed that starts -/

theorem sound_deliver (h : f.loop.Sound) (w : WatchedType) (now : Instant)
    (cs : List Watch.Callback) : (f.deliver w now cs).loop.Sound := by
  obtain ⟨chs, hf⟩ := f.exists_fills_deliver w now cs
  exact hf.sound h

theorem sound_settle (h : f.loop.Sound) (send : Option (Send σ)) (s : σ) :
    (f.settle send s).1.loop.Sound :=
  FlushLoop.settle_sound (sendOrRefuse send) f.loop.turnsLeft h s

/-- What the loop does by itself leaves a whole feed whole. -/
theorem Whole.settle (h : f.Whole) (send : Option (Send σ)) (s : σ) :
    (f.settle send s).1.Whole :=
  ⟨h.strays, sound_settle h.loop send s, fun hnone =>
    (FlushLoop.isOpen_settle (sendOrRefuse send) f.loop.turnsLeft f.loop s).trans
      (h.abandoned hnone)⟩

/-- Once the queue is closed if it has to be, a feed needs only to have no strays and a sound loop
to be whole. -/
theorem whole_closeIfAbandoned (hstrays : f.strays = []) (hloop : f.loop.Sound) :
    f.closeIfAbandoned.Whole :=
  ⟨(fills_closeIfAbandoned f).strays.trans hstrays, (fills_closeIfAbandoned f).sound hloop,
    fun h => isOpen_closeIfAbandoned (allInformers_closeIfAbandoned f ▸ h)⟩

theorem askOnce_sound (o : Outside σ) (is : List Informer) (s : σ) (h : f.loop.Sound) :
    (askOnce o is f s).2.1.loop.Sound := by
  induction is generalizing f s with
  | nil => exact h
  | cons i is ih => exact ih _ (sound_deliver h _ _ _)

theorem askAll_sound (o : Outside σ) (send : Option (Send σ)) (fuel : Nat) (is : List Informer)
    (s : σ) (h : f.loop.Sound) : (askAll o send fuel is f s).2.1.loop.Sound := by
  induction fuel generalizing is f s with
  | zero => exact h
  | succ fuel ih =>
    unfold askAll
    split
    · exact ih _ _ (sound_settle (askOnce_sound o is s h) send _)
    · exact h

theorem loop_foldl_put (is : List Informer) (f : Feed) : (is.foldl put f).loop = f.loop := by
  induction is generalizing f with
  | nil => rfl
  | cons i is ih => exact ih (f.put i)

/-- No informer loses its place to one of another type. -/
theorem strays_foldl_put {is : List Informer}
    (his : is.Pairwise fun i j => i.resource.gvr ≠ j.resource.gvr)
    (hnew : ∀ i ∈ is, f.informers[i.resource.gvr]? = none) :
    (is.foldl put f).strays = f.strays := by
  induction is generalizing f with
  | nil => rfl
  | cons i is ih =>
    obtain ⟨hi, his⟩ := List.pairwise_cons.mp his
    rw [List.foldl_cons, ih his fun j hj => ?_]
    · unfold put
      dsimp only
      rw [hnew i List.mem_cons_self]
    · show (f.informers.insert i.resource.gvr i)[j.resource.gvr]? = none
      rw [KeyedMap.getElem?_insert_eq, if_neg (hi j hj)]
      exact hnew j (List.mem_cons_of_mem _ hj)

/-- A feed that was started for types of which no two are the same is whole. -/
theorem start_whole (o : Outside σ) (opts : Options) (scope : String) (settings : Settings)
    {types : List WatchedType} (htypes : types.Pairwise fun a b => a.gvr ≠ b.gvr) (now : Nat)
    (s : σ) : (start o opts scope settings types now s).1.Whole := by
  obtain ⟨hresources, hsame⟩ := askAll_keeps o (transport o opts scope settings)
    Informer.maxRequests (types.map .start) (empty opts scope settings now) s
  have hsound := askAll_sound o (transport o opts scope settings) Informer.maxRequests
    (types.map .start) s (f := empty opts scope settings now)
    (FlushLoop.sound_start settings.debounce settings.hasTarget (max opts.queueCapacity 1) now)
  set asked := askAll o (transport o opts scope settings) Informer.maxRequests
    (types.map .start) (empty opts scope settings now) s
  have hpairs : (asked.1.map Informer.resource).Pairwise fun a b => a.gvr ≠ b.gvr := by
    rw [hresources, List.map_map]
    exact (List.map_id types).symm ▸ htypes
  have hgvrs : asked.1.Pairwise fun i j => i.resource.gvr ≠ j.resource.gvr :=
    (List.pairwise_map (R := fun a b : WatchedType => a.gvr ≠ b.gvr)).mp hpairs
  have hnone : asked.2.1.informers = ∅ := congrArg Feed.informers hsame
  have hstrays : (asked.1.foldl put asked.2.1).strays = [] := by
    rw [strays_foldl_put hgvrs fun i _ => hnone ▸ Std.ExtTreeMap.getElem?_empty]
    exact congrArg Feed.strays hsame
  have hput : (asked.1.foldl put asked.2.1).loop.Sound := by
    rw [loop_foldl_put]
    exact hsound
  exact (whole_closeIfAbandoned hstrays hput).settle (transport o opts scope settings) asked.2.2

/-! ## A feed that lives on -/

theorem exists_fills_hearPlaced (path : String) (notices : List Notice) (now : Instant)
    (f : Feed) : ∃ chs, (f.hearPlaced path notices now).Fills f chs := by
  unfold hearPlaced
  generalize f.informers.toList = es
  induction es generalizing f with
  | nil => exact ⟨[], fills_informers f f.informers⟩
  | cons e es ih =>
    let placed : Feed :=
      { f with informers := f.informers.insert e.1 (hear path notices e.2).2 }
    obtain ⟨chs, hone⟩ := placed.exists_fills_deliver (hear path notices e.2).2.resource now
      (hear path notices e.2).1
    obtain ⟨chs', hrest⟩ := ih (placed.deliver (hear path notices e.2).2.resource now
      (hear path notices e.2).1)
    exact ⟨_, hrest.trans (hone.trans (fills_informers f _))⟩

/-- Without strays only the informers in their places hear anything. -/
theorem hearStrays_eq (h : f.strays = []) (path : String) (notices : List Notice)
    (now : Instant) : f.hearStrays path notices now = f := by
  unfold hearStrays
  rw [h]
  obtain ⟨settings, scope, informers, strays, loop, dropped, due⟩ := f
  cases h
  rfl

/-- A whole feed whose informers have heard of changes is whole. -/
theorem Whole.notify (h : f.Whole) (o : Outside σ) (opts : Options) (path : String)
    (notices : List Notice) (s : σ) : (f.notify o opts path notices s).1.Whole := by
  unfold Feed.notify
  dsimp only
  rw [hearStrays_eq h.strays]
  obtain ⟨chs, hf⟩ := f.exists_fills_hearPlaced path notices (o.now s)
  exact (whole_closeIfAbandoned (hf.strays.trans h.strays) (hf.sound h.loop)).settle _ _

/-- A whole feed that woke is whole. -/
theorem Whole.wake (h : f.Whole) (o : Outside σ) (opts : Options) (now : Nat) (s : σ) :
    (f.wake o opts now s).2.1.Whole := by
  have hwoken : ({ f with loop := { f.loop with now } } : Feed).Whole :=
    ⟨h.strays, h.loop.withNow now, h.abandoned⟩
  have hsettled := hwoken.settle (transport o opts f.scope f.settings) s
  unfold Feed.wake
  dsimp only
  split
  · split <;> exact ⟨hsettled.strays, hsettled.loop, hsettled.abandoned⟩
  · exact hsettled

/-! ## A feed that is ended -/

/-- Informers that are stopped one after the other. -/
theorem getElem?_foldl_stop (gvrs : List Gvr) (is : Std.ExtTreeMap Gvr Informer) (gvr : Gvr) :
    (gvrs.foldl (fun is gvr => is.modify gvr Informer.stop) is)[gvr]? =
      if gvr ∈ gvrs then is[gvr]?.map Informer.stop else is[gvr]? := by
  induction gvrs generalizing is with
  | nil => simp
  | cons g gvrs ih =>
    rw [List.foldl_cons, ih, Std.ExtTreeMap.getElem?_modify]
    by_cases hg : g = gvr
    · subst hg
      rw [if_pos Std.ReflCmp.compare_self, if_pos List.mem_cons_self]
      split
      · rw [Option.map_map]
        rfl
      · rfl
    · rw [if_neg fun he => hg (Std.LawfulEqCmp.compare_eq_iff_eq.mp he)]
      simp [Ne.symm hg]

/-- Stopped one after the other, in the end all informers have been stopped. -/
theorem foldl_stop_keys (is : Std.ExtTreeMap Gvr Informer) :
    is.keys.foldl (fun is gvr => is.modify gvr Informer.stop) is = is.map fun _ i => i.stop := by
  refine Std.ExtTreeMap.ext_getElem? fun gvr => ?_
  rw [getElem?_foldl_stop, Std.ExtTreeMap.getElem?_map]
  split
  · rfl
  · rename_i hgvr
    rw [Std.ExtTreeMap.mem_keys, ← Std.ExtTreeMap.isSome_getElem?_iff_mem] at hgvr
    rw [Option.not_isSome_iff_eq_none.mp hgvr]
    rfl

/-- Where no informer runs, none runs after one has been stopped. -/
theorem any_isRunning_stop (f : Feed) (gvr : Gvr)
    (h : f.allInformers.any Informer.isRunning = false) :
    ({ f with informers := f.informers.modify gvr Informer.stop } :
      Feed).allInformers.any Informer.isRunning = false := by
  refine eq_false_of_ne_true fun hany => ne_true_of_eq_false h ?_
  rw [any_isRunning_iff] at hany ⊢
  refine hany.imp_right fun ⟨gvr', hrun⟩ => ⟨gvr', ?_⟩
  rw [← runs_closeIfAbandoned] at hrun
  have hhalt : (f.halt gvr).runs gvr' = true := hrun
  rw [runs_halt] at hhalt
  exact (Bool.and_eq_true_iff.mp hhalt).2

/-- It does not matter whether the queue of a feed in which no informer runs has been closed when
one of them is stopped. -/
theorem halt_closeIfAbandoned (f : Feed) (gvr : Gvr) :
    f.closeIfAbandoned.halt gvr = f.halt gvr := by
  cases hany : f.allInformers.any Informer.isRunning with
  | true => rw [closeIfAbandoned, if_pos hany]
  | false =>
    have hstop := ne_true_of_eq_false (any_isRunning_stop f gvr hany)
    rw [closeIfAbandoned, if_neg (ne_true_of_eq_false hany)]
    unfold halt closeIfAbandoned
    rw [if_neg hstop]
    exact if_neg hstop

theorem foldl_halt (gvrs : List Gvr) (f : Feed) :
    gvrs.foldl (fun f gvr => f.halt gvr) f.closeIfAbandoned =
      ({ f with informers := gvrs.foldl (fun is gvr => is.modify gvr Informer.stop) f.informers } :
        Feed).closeIfAbandoned := by
  induction gvrs generalizing f with
  | nil => rfl
  | cons gvr gvrs ih =>
    rw [List.foldl_cons, halt_closeIfAbandoned]
    exact ih { f with informers := f.informers.modify gvr Informer.stop }

/-- The informers of a whole feed are stopped one after the other as they are stopped in one go. -/
theorem Whole.foldl_halt_keys (h : f.Whole) :
    f.informers.keys.foldl (fun f gvr => f.halt gvr) f = f.stopInformers.closeIfAbandoned := by
  have hfold := foldl_halt f.informers.keys f
  rw [h.closeIfAbandoned_eq, foldl_stop_keys] at hfold
  exact hfold

theorem any_isRunning_stopInformers (h : f.strays = []) :
    f.stopInformers.allInformers.any Informer.isRunning = false := by
  refine eq_false_of_ne_true fun hany => ?_
  rcases f.stopInformers.any_isRunning_iff.mp hany with hstray | ⟨gvr, hrun⟩
  · rw [show f.stopInformers.strays = [] from h] at hstray
    cases hstray
  · unfold runs stopInformers at hrun
    rw [Std.ExtTreeMap.getElem?_map] at hrun
    cases hgvr : f.informers[gvr]? <;> simp [hgvr, Informer.isRunning, Informer.stop] at hrun

/-- The informers are stopped, and the loop reads the queue to its end. -/
def drain (o : Outside σ) (opts : Options) (f : Feed) (s : σ) : Feed × σ :=
  f.stopInformers.closeIfAbandoned.settle (transport o opts f.scope f.settings) s

/-- The batch of the last flush is sent, if there is one. -/
def sendLast (o : Outside σ) (opts : Options) (f : Feed) (batch : Option Pending) (s : σ) : σ :=
  batch.elim s fun batch => (sendOrRefuse (transport o opts f.scope f.settings)
    (Buffer.batchRequest batch) s).2

/-- When the informers have been stopped the loop comes to its end. -/
theorem Whole.isEnded_drain (h : f.Whole) (o : Outside σ) (opts : Options) (s : σ) :
    (f.drain o opts s).1.loop.isEnded = true := by
  have hsound := (whole_closeIfAbandoned (f := f.stopInformers) h.strays h.loop).loop
  have hclosed := isOpen_closeIfAbandoned (any_isRunning_stopInformers h.strays)
  exact hsound.settle_ended (sendOrRefuse (transport o opts f.scope f.settings)) hclosed
    (FlushLoop.chores_le_turnsLeft _) s

end Feed

namespace Closing

variable {f : Feed} {x y : Closing}

/-- The informers can be stopped before anything else happens. -/
theorem run_stops (gvrs : List Gvr) (x : Closing) (hs : x.stage = .stopping gvrs) :
    x.run? (gvrs.map fun _ => .stop) =
      some { x with
        feed := gvrs.foldl (fun f gvr => f.halt gvr) x.feed
        stage := .stopping [] } := by
  induction gvrs generalizing x with
  | nil =>
    obtain ⟨feed, stage, enqueued, log⟩ := x
    cases hs
    rfl
  | cons gvr gvrs ih =>
    have hstep : x.step? .stop =
        some { x with feed := x.feed.halt gvr, stage := .stopping gvrs } := by
      dsimp only [step?]
      rw [hs]
      dsimp only
      rw [refill_eq (Feed.fills_halt gvr x.feed), List.append_nil]
    unfold run?
    rw [List.map_cons, List.foldlM_cons, hstep]
    exact ih { x with feed := x.feed.halt gvr, stage := .stopping gvrs } rfl

/-- The loop can settle before anything else happens. -/
theorem exists_run_settle {σ : Type} (x : Closing) (send : Option (Send σ)) (s : σ) :
    ∃ es y, x.run? es = some y ∧ y.feed = (x.feed.settle send s).1 ∧ y.stage = x.stage := by
  refine FlushLoop.settle_keeps (motive := fun l => ∃ es y, x.run? es = some y ∧
    y.feed = { x.feed with loop := l } ∧ y.stage = x.stage) ?_ ?_
    (Feed.sendOrRefuse send) x.feed.loop.turnsLeft x.feed.loop s ⟨[], x, rfl, rfl, rfl⟩
  · rintro l l' ⟨es, y, hrun, hfeed, hstage⟩ hl
    have hturn : y.feed.loop.turn? = some l' := by
      rw [hfeed]
      exact hl
    refine ⟨es ++ [.turn], { y with feed.loop := l', log := y.log ++ y.feed.loop.deed?.toList },
      Runs.concat_eq_some_iff.mpr ⟨y, hrun, ?_⟩, ?_, hstage⟩
    · dsimp only [step?]
      rw [hturn]
      rfl
    · dsimp only
      rw [hfeed]
  · rintro l batch outcome ⟨es, y, hrun, hfeed, hstage⟩ hb
    have hbatch : y.feed.loop.underway? = some batch := by
      rw [hfeed]
      exact hb
    refine ⟨es ++ [.answer outcome],
      { y with feed.loop := y.feed.loop.answer outcome, log := y.log ++ [.finish outcome] },
      Runs.concat_eq_some_iff.mpr ⟨y, hrun, ?_⟩, ?_, hstage⟩
    · dsimp only [step?]
      rw [hbatch]
      rfl
    · dsimp only
      rw [hfeed]

/-- A whole feed comes to its last flush, and `Feed.finish?` sends just the batch of it. -/
theorem finish?_flushes {σ : Type} (h : f.Whole) (o : Outside σ) (opts : Options) (s : σ) :
    ∃ es x y, (opening f).run? es = some x ∧ x.step? .flush = some y ∧
      x.feed = (f.drain o opts s).1 ∧
      f.finish? o opts s = some (f.sendLast o opts y.stage.batch? (f.drain o opts s).2) := by
  have hstops := run_stops f.informers.keys (opening f) rfl
  obtain ⟨es, x, hrun, hfeed, hstage⟩ := exists_run_settle
    { opening f with feed := f.stopInformers.closeIfAbandoned, stage := .stopping [] }
    (transport o opts f.scope f.settings) s
  rw [show (opening f).feed = f from rfl, h.foldl_halt_keys] at hstops
  have hended : x.feed.loop.isEnded = true := by
    rw [hfeed]
    exact h.isEnded_drain o opts s
  refine ⟨_, x, x.flush, Runs.append_eq_some_iff.mpr ⟨_, hstops, hrun⟩, ?_, hfeed, ?_⟩
  · dsimp only [step?]
    rw [hstage]
    exact if_pos hended
  · have hnone : ¬ f.stopInformers.strays.any Informer.isRunning = true := by
      rw [show f.stopInformers.strays = [] from h.strays]
      exact Bool.false_ne_true
    have hdrain : f.stopInformers.closeIfAbandoned.settle (transport o opts f.scope f.settings) s =
        f.drain o opts s := rfl
    have hbuffer : (f.drain o opts s).1.loop.buffer = x.feed.loop.buffer :=
      congrArg (·.loop.buffer) hfeed.symm
    unfold Feed.finish?
    dsimp only
    rw [if_neg hnone, hdrain, hbuffer]
    unfold flush Feed.sendLast
    obtain ⟨⟨began, b⟩, hstart⟩ : ∃ r, x.feed.loop.buffer.startFlush = r := ⟨_, rfl⟩
    rw [hstart]
    cases began <;> rfl

end Closing

end ClusterFeed.Control
