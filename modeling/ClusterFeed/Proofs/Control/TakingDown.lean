import ClusterFeed.Proofs.Control.Office
import ClusterFeed.Proofs.Control.Strays

/-!
# How a feed is taken down

`stop` and `ensure_running` take a feed down with `shutdown` and without a last flush. First all
that belongs to the feed is told to stop. Then its informers are waited for, one after the other in
the order of their types, and each of them is cut off where it stands if it has not ended by itself;
after them the flush loop, and last the task of `resync_loop`. Until then an informer may still read
its watch, the loop still hears of the batch that is on its way, and a resync may still be sent.

Once everything has been waited for the feed is down: no informer in its place runs, the loop has
ended, nothing comes into the queue any more, and from the buffer nothing has been sent since the
feed was told to stop.
-/

namespace ClusterFeed.Control

open Sync (SyncError)
open Time (Instant)
open Watch (Informer)

namespace Feed

/-- An informer without a place takes an event in, and its reports go into the queue. -/
def takeInStray (n : Nat) (now : Instant) (e : Watch.Event) (f : Feed) : Feed :=
  match f.strays[n]? with
  | some i =>
    let (cs, i) := i.handle e i.phase
    ({ f with strays := f.strays.set n i }).deliver i.resource now cs
  | none => f

/-- An informer without a place has ended. -/
def haltStray (n : Nat) (f : Feed) : Feed :=
  { f with strays := f.strays.modify n Informer.stop }.closeIfAbandoned

end Feed

/-- A feed that is taken down. -/
structure Teardown where
  /-- The feed. -/
  feed : Feed
  /-- The types whose informers have not been waited for yet. -/
  left : List Gvr
  /-- What the task that resyncs it does. -/
  task : ResyncTask

namespace Teardown

/-- What happens while a feed is taken down. -/
inductive Event where
  /-- An informer that runs takes in what its watch tells. -/
  | watch (gvr : Gvr) (now : Instant) (e : Watch.Event)
  /-- An informer has heard that it is to stop, or ends by itself. -/
  | quit (gvr : Gvr)
  /-- An informer without a place takes in what its watch tells. -/
  | watchStray (n : Nat) (now : Instant) (e : Watch.Event)
  /-- An informer without a place has heard that it is to stop. -/
  | quitStray (n : Nat)
  /-- The flush loop takes a turn. -/
  | turn
  /-- The flush loop hears of the batch that is on its way. -/
  | answer (outcome : Except SyncError Sync.Response)
  /-- Time passes. -/
  | pass (nanos : Nat)
  /-- The next informer has been cut off and waited for. -/
  | stop
  /-- A resync is due. -/
  | due (now : Instant)
  /-- The index has answered to a resync that was due. -/
  | told (answer : Except SyncError Sync.Response) (now : Instant)
  /-- The task that resyncs the feed has heard that it is to stop. -/
  | ends

/-- A feed when everything has been told to stop. -/
def opening (f : Feed) : Teardown :=
  ⟨{ f with loop.cancelled := true }, f.informers.keys, .resting⟩

/-- One event; none when it cannot happen now. -/
def step? (x : Teardown) : Event → Option Teardown
  | .watch gvr now e =>
    if x.feed.runs gvr then
      some { x with feed := (x.feed.takeIn gvr now e).closeIfAbandoned }
    else none
  | .quit gvr => some { x with feed := x.feed.halt gvr }
  | .watchStray n now e =>
    if x.feed.strays[n]?.any Informer.isRunning then
      some { x with feed := (x.feed.takeInStray n now e).closeIfAbandoned }
    else none
  | .quitStray n => some { x with feed := x.feed.haltStray n }
  | .turn => x.feed.loop.turn?.map fun l => { x with feed.loop := l }
  | .answer outcome => x.feed.loop.underway?.map fun _ =>
    { x with feed.loop := x.feed.loop.answer outcome }
  | .pass nanos => some { x with feed.loop := x.feed.loop.advance nanos }
  | .stop => match x.left with
    | gvr :: left => some { x with feed := x.feed.halt gvr, left }
    | [] => none
  | .due now => match x.task with
    | .resting =>
      if x.feed.notesResync then
        some { x with task := .telling (ResyncSource.collect now x.feed.sources) }
      else none
    | _ => none
  | .told answer _ => match x.task with
    | .telling _ =>
      some { x with task := match answer with
        | .error .cancelled => .ended
        | _ => .resting }
    | _ => none
  | .ends => match x.task with
    | .resting => some { x with task := .ended }
    | _ => none

/-- Events one after the other. -/
def run? (x : Teardown) (es : List Event) : Option Teardown := es.foldlM step? x

/-- Everything has been waited for. -/
structure Complete (x : Teardown) : Prop where
  informers : x.left = []
  loop : x.feed.loop.isEnded = true
  task : x.task = .ended

/-- The feed is down. -/
structure Down (f : Feed) (x : Teardown) : Prop where
  /-- No informer in its place runs. -/
  informers : ∀ (gvr : Gvr) i, x.feed.informers[gvr]? = some i → i.isRunning = false
  /-- The loop has ended as it was told to. -/
  loop : x.feed.loop.isEnded = true ∧ x.feed.loop.cancelled = true
  /-- Nothing comes into the queue any more. -/
  queue : ∀ w now cs, (x.feed.deliver w now cs).queue = x.feed.queue
  /-- From the buffer nothing was sent. If a batch was on its way it has been answered. -/
  buffer : (f.loop.underway? = none ∧ x.feed.loop.buffer = f.loop.buffer) ∨
    ∃ batch outcome, f.loop.underway? = some batch ∧
      x.feed.loop.buffer = (f.loop.buffer.endFlush batch outcome).2
  /-- Its task has ended. -/
  task : x.task = .ended
  /-- What happened to its loop is what can happen to a loop that has been told to stop. -/
  comes : Duty.Comes { f.loop with cancelled := true } x.feed.loop

/-! ## Only the loop's queue has changed -/

/-- The loop is the other one but for its queue, and has come by the rules to be so. -/
structure Requeued (l' l : FlushLoop) : Prop where
  loop : l' = { l with intake := l'.intake }
  comes : Duty.Comes l l'

variable {l l' l'' : FlushLoop} {f f' : Feed} {x y z : Teardown} {gvr : Gvr}

theorem Requeued.refl (l : FlushLoop) : Requeued l l := ⟨rfl, .refl l⟩

theorem Requeued.trans (h : Requeued l'' l') (h' : Requeued l' l) : Requeued l'' l := by
  refine ⟨?_, h'.comes.trans h.comes⟩
  rw [h.loop, h'.loop]

theorem requeued_closeIfAbandoned (f : Feed) : Requeued f.closeIfAbandoned.loop f.loop :=
  ⟨(Feed.fills_closeIfAbandoned f).loop, Feed.comes_closeIfAbandoned f⟩

theorem requeued_deliver (f : Feed) (w : WatchedType) (now : Instant) (cs : List Watch.Callback) :
    Requeued (f.deliver w now cs).loop f.loop :=
  ⟨rfl, Feed.comes_deliver f w now cs⟩

theorem requeued_halt (gvr : Gvr) (f : Feed) : Requeued (f.halt gvr).loop f.loop :=
  requeued_closeIfAbandoned { f with informers := f.informers.modify gvr Informer.stop }

theorem requeued_haltStray (n : Nat) (f : Feed) : Requeued (f.haltStray n).loop f.loop :=
  requeued_closeIfAbandoned { f with strays := f.strays.modify n Informer.stop }

theorem requeued_takeIn (gvr : Gvr) (now : Instant) (e : Watch.Event) (f : Feed) :
    Requeued (f.takeIn gvr now e).closeIfAbandoned.loop f.loop := by
  refine (requeued_closeIfAbandoned _).trans ?_
  unfold Feed.takeIn
  split
  · rename_i i _
    exact requeued_deliver { f with informers := f.informers.insert gvr (i.handle e i.phase).2 }
      (i.handle e i.phase).2.resource now (i.handle e i.phase).1
  · exact .refl f.loop

theorem requeued_takeInStray (n : Nat) (now : Instant) (e : Watch.Event) (f : Feed) :
    Requeued (f.takeInStray n now e).closeIfAbandoned.loop f.loop := by
  refine (requeued_closeIfAbandoned _).trans ?_
  unfold Feed.takeInStray
  split
  · rename_i i _
    exact requeued_deliver { f with strays := f.strays.set n (i.handle e i.phase).2 }
      (i.handle e i.phase).2.resource now (i.handle e i.phase).1
  · exact .refl f.loop

/-- The informers without a place have none to change. -/
theorem runs_takeInStray (n : Nat) (now : Instant) (e : Watch.Event) (f : Feed) :
    (f.takeInStray n now e).closeIfAbandoned.runs gvr = f.runs gvr := by
  rw [Feed.runs_closeIfAbandoned]
  unfold Feed.takeInStray
  split <;> rfl

/-! ## What holds all the time -/

/-- What is true of a feed all the time that it is taken down. -/
structure Kept (f : Feed) (x : Teardown) : Prop where
  cancelled : x.feed.loop.cancelled = true
  running : ∀ gvr, x.feed.runs gvr = true → gvr ∈ x.left
  buffer : (x.feed.loop.underway? = f.loop.underway? ∧ x.feed.loop.buffer = f.loop.buffer) ∨
    ∃ batch outcome, f.loop.underway? = some batch ∧ x.feed.loop.underway? = none ∧
      x.feed.loop.buffer = (f.loop.buffer.endFlush batch outcome).2
  comes : Duty.Comes { f.loop with cancelled := true } x.feed.loop

theorem kept_opening (f : Feed) : (opening f).Kept f := by
  refine ⟨rfl, fun gvr hgvr => ?_, .inl ⟨rfl, rfl⟩, .refl _⟩
  show gvr ∈ f.informers.keys
  rw [Std.ExtTreeMap.mem_keys, ← Std.ExtTreeMap.isSome_getElem?_iff_mem]
  exact Option.isSome_of_any hgvr

/-- What the informers do does not concern the loop but for its queue. -/
theorem Kept.informers (h : x.Kept f) (hsame : Requeued f'.loop x.feed.loop) {left : List Gvr}
    (hrun : ∀ gvr, f'.runs gvr = true → gvr ∈ left) :
    ({ x with feed := f', left } : Teardown).Kept f := by
  obtain ⟨hloop, hcomes⟩ := hsame
  refine ⟨?_, hrun, ?_, h.comes.trans hcomes⟩
  · show f'.loop.cancelled = true
    rw [hloop]
    exact h.cancelled
  · show (f'.loop.underway? = _ ∧ f'.loop.buffer = _) ∨ _
    rw [hloop]
    exact h.buffer

theorem Kept.halt (h : x.Kept f) (gvr : Gvr) :
    ({ x with feed := x.feed.halt gvr } : Teardown).Kept f := by
  refine h.informers (requeued_halt gvr x.feed) fun gvr' hrun => h.running gvr' ?_
  rw [Feed.runs_halt] at hrun
  exact (Bool.and_eq_true_iff.mp hrun).2

/-- An informer that has been waited for does not run. -/
theorem Kept.stop (h : x.Kept f) {left : List Gvr} (hleft : x.left = gvr :: left) :
    ({ x with feed := x.feed.halt gvr, left } : Teardown).Kept f := by
  refine h.informers (requeued_halt gvr x.feed) fun gvr' hrun => ?_
  rw [Feed.runs_halt, Bool.and_eq_true, decide_eq_true_eq] at hrun
  have hmem := h.running gvr' hrun.2
  rw [hleft] at hmem
  exact (List.mem_cons.mp hmem).resolve_left hrun.1.symm

/-- A loop that has been told to stop ends with its next turn. -/
theorem Kept.turn (h : x.Kept f) {l : FlushLoop} (hl : x.feed.loop.turn? = some l) :
    ({ x with feed.loop := l } : Teardown).Kept f := by
  obtain ⟨hphase, -⟩ := FlushLoop.turned_of_turn? hl
  refine ⟨?_, h.running, ?_, h.comes.trans (Duty.comes_turn hl)⟩
  · rw [FlushLoop.turn?_of_cancelled h.cancelled hphase] at hl
    cases hl
    exact h.cancelled
  · have hnone : x.feed.loop.underway? = none := by rw [FlushLoop.underway?, hphase]
    rw [FlushLoop.turn?_of_cancelled h.cancelled hphase] at hl
    cases hl
    have hbuffer := h.buffer
    rw [hnone] at hbuffer
    exact hbuffer

theorem Kept.answer (h : x.Kept f) {batch : Pending} (hb : x.feed.loop.underway? = some batch)
    (outcome : Except SyncError Sync.Response) :
    ({ x with feed.loop := x.feed.loop.answer outcome } : Teardown).Kept f := by
  refine ⟨?_, h.running, .inr ?_, h.comes.trans (Duty.comes_answer hb outcome)⟩
  · rw [FlushLoop.answer_eq hb]
    exact h.cancelled
  · rcases h.buffer with ⟨hsame, hbuffer⟩ | ⟨-, -, -, hnone, -⟩
    · refine ⟨batch, outcome, hsame ▸ hb, ?_, ?_⟩
      · rw [FlushLoop.answer_eq hb]
        rfl
      · rw [FlushLoop.answer_eq hb, ← hbuffer]
    · rw [hnone] at hb
      cases hb

theorem Kept.step (h : x.Kept f) {e : Event} (hs : x.step? e = some y) : y.Kept f := by
  cases e with
  | watch gvr now e =>
    dsimp only [step?] at hs
    split at hs
    · rename_i hgvr
      cases hs
      refine h.informers (requeued_takeIn gvr now e x.feed) fun gvr' hrun => ?_
      rcases Feed.runs_takeIn hrun with rfl | hrun
      · exact h.running gvr hgvr
      · exact h.running gvr' hrun
    · cases hs
  | quit gvr =>
    cases hs
    exact h.halt gvr
  | watchStray n now e =>
    dsimp only [step?] at hs
    split at hs
    · cases hs
      refine h.informers (requeued_takeInStray n now e x.feed) fun gvr hrun => h.running gvr ?_
      rwa [runs_takeInStray] at hrun
    · cases hs
  | quitStray n =>
    cases hs
    refine h.informers (requeued_haltStray n x.feed) fun gvr hrun => h.running gvr ?_
    unfold Feed.haltStray at hrun
    rwa [Feed.runs_closeIfAbandoned] at hrun
  | turn =>
    obtain ⟨l, hl, rfl⟩ := Option.map_eq_some_iff.mp hs
    exact h.turn hl
  | answer outcome =>
    obtain ⟨batch, hb, rfl⟩ := Option.map_eq_some_iff.mp hs
    exact h.answer hb outcome
  | pass nanos =>
    cases hs
    exact ⟨h.cancelled, h.running, h.buffer, h.comes.trans (Duty.comes_advance _ nanos)⟩
  | stop =>
    dsimp only [step?] at hs
    split at hs
    · rename_i gvr left hleft
      cases hs
      exact h.stop hleft
    · cases hs
  | due now =>
    dsimp only [step?] at hs
    split at hs
    · split at hs
      · cases hs
        exact ⟨h.cancelled, h.running, h.buffer, h.comes⟩
      · cases hs
    · cases hs
  | told answer now =>
    dsimp only [step?] at hs
    split at hs
    · cases hs
      exact ⟨h.cancelled, h.running, h.buffer, h.comes⟩
    · cases hs
  | ends =>
    dsimp only [step?] at hs
    split at hs
    · cases hs
      exact ⟨h.cancelled, h.running, h.buffer, h.comes⟩
    · cases hs

theorem Kept.run (h : x.Kept f) {es : List Event} (hrun : x.run? es = some y) : y.Kept f :=
  Runs.induction (motive := fun _ y => y.Kept f) h (fun _ _ _ _ _ hm hs => hm.step hs) hrun

/-- A feed for which everything has been waited is down. -/
theorem Kept.down (h : x.Kept f) (hx : x.Complete) : x.Down f := by
  refine ⟨fun gvr i hi => ?_, ⟨hx.loop, h.cancelled⟩, fun w now cs => ?_, ?_, hx.task, h.comes⟩
  · refine eq_false_of_ne_true fun hrunning => ?_
    have hrun : x.feed.runs gvr = true := by
      unfold Feed.runs
      rw [hi]
      exact hrunning
    have hmem := h.running gvr hrun
    rw [hx.informers] at hmem
    cases hmem
  · exact congrArg (·.intake.items) (Feed.loop_deliver_of_ended hx.loop w now cs)
  · have hnone := FlushLoop.underway?_of_ended hx.loop
    rcases h.buffer with ⟨hsame, hbuffer⟩ | ⟨batch, outcome, hb, -, hbuffer⟩
    · exact .inl ⟨hsame.symm.trans hnone, hbuffer⟩
    · exact .inr ⟨batch, outcome, hb, hbuffer⟩

theorem down_of_run {es : List Event} (hrun : (opening f).run? es = some x) (hx : x.Complete) :
    x.Down f :=
  ((kept_opening f).run hrun).down hx

/-! ## It comes to an end -/

/-- One teardown leads to another. -/
def Leads (x y : Teardown) : Prop := ∃ es, x.run? es = some y

theorem Leads.refl (x : Teardown) : x.Leads x := ⟨[], rfl⟩

theorem Leads.trans (h : x.Leads y) (h' : y.Leads z) : x.Leads z := by
  obtain ⟨es, hes⟩ := h
  obtain ⟨es', hes'⟩ := h'
  exact ⟨es ++ es', Runs.append_eq_some_iff.mpr ⟨y, hes, hes'⟩⟩

theorem leads_of_step {e : Event} (h : x.step? e = some y) : x.Leads y :=
  ⟨[] ++ [e], Runs.concat_eq_some_iff.mpr ⟨x, rfl, h⟩⟩

/-- The informers can be waited for at any time. -/
theorem exists_stopped (x : Teardown) : ∃ y, x.Leads y ∧ y.left = [] := by
  obtain ⟨feed, left, task⟩ := x
  induction left generalizing feed with
  | nil => exact ⟨_, .refl _, rfl⟩
  | cons gvr left ih =>
    obtain ⟨y, hy, hleft⟩ := ih (feed.halt gvr)
    exact ⟨y, (leads_of_step (e := .stop) rfl).trans hy, hleft⟩

/-- A loop that has been told to stop ends as soon as its batch has been answered. -/
theorem exists_ended (hc : x.feed.loop.cancelled = true) :
    ∃ y, x.Leads y ∧ y.left = x.left ∧ y.feed.loop.isEnded = true := by
  have hwaiting : ∀ y : Teardown, y.feed.loop.cancelled = true → y.feed.loop.phase = .waiting →
      ∃ z, y.Leads z ∧ z.left = y.left ∧ z.feed.loop.isEnded = true := by
    intro y hc hphase
    refine ⟨{ y with feed.loop.phase := .ended }, leads_of_step (e := .turn) ?_, rfl, rfl⟩
    dsimp only [step?]
    rw [FlushLoop.turn?_of_cancelled hc hphase]
    rfl
  cases hphase : x.feed.loop.phase with
  | waiting => exact hwaiting x hc hphase
  | ended => exact ⟨x, .refl x, rfl, FlushLoop.isEnded_iff.mpr hphase⟩
  | sending batch =>
    have hb := FlushLoop.underway?_eq_some_iff.mpr hphase
    have hanswer := FlushLoop.answer_eq hb (.error .cancelled)
    have hstep : x.step? (.answer (.error .cancelled)) =
        some { x with feed.loop := x.feed.loop.answer (.error .cancelled) } := by
      dsimp only [step?]
      rw [hb]
      rfl
    obtain ⟨z, hz, hleft, hended⟩ := hwaiting
      { x with feed.loop := x.feed.loop.answer (.error .cancelled) }
      (by dsimp only; rw [hanswer]; exact hc) (by dsimp only; rw [hanswer])
    exact ⟨z, (leads_of_step hstep).trans hz, hleft, hended⟩

/-- The task that resyncs a feed ends when it rests, or when a resync is cut off. -/
theorem exists_task_ended (x : Teardown) :
    ∃ y, x.Leads y ∧ y.left = x.left ∧ y.feed = x.feed ∧ y.task = .ended := by
  obtain ⟨feed, left, task⟩ := x
  cases task with
  | ended => exact ⟨_, .refl _, rfl, rfl, rfl⟩
  | resting => exact ⟨⟨feed, left, .ended⟩, leads_of_step (e := .ends) rfl, rfl, rfl, rfl⟩
  | telling told =>
    exact ⟨⟨feed, left, .ended⟩, leads_of_step (e := .told (.error .cancelled) default) rfl, rfl,
      rfl, rfl⟩

/-- However far it is, a feed that is taken down can come to its end. -/
theorem Kept.exists_complete (h : x.Kept f) : ∃ y, x.Leads y ∧ y.Complete := by
  obtain ⟨y, hy, hleft⟩ := exists_stopped x
  obtain ⟨es, hes⟩ := hy
  obtain ⟨z, hz, hzleft, hended⟩ := exists_ended (h.run hes).cancelled
  obtain ⟨w, hw, hwleft, hwfeed, htask⟩ := exists_task_ended z
  refine ⟨w, (Leads.trans ⟨es, hes⟩ hz).trans hw, ?_, ?_, htask⟩
  · rw [hwleft, hzleft, hleft]
  · rw [hwfeed]
    exact hended

end Teardown

end ClusterFeed.Control
