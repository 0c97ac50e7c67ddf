import ClusterFeed.Proofs.Buffer.Reading
import ClusterFeed.Proofs.Control.Traffic
import ClusterFeed.Proofs.Runs

/-!
# How a feed comes to its end

When everything is stopped each feed gets one last flush. First its informers are stopped, one after
the other in the order of their types. Until it is stopped an informer reads its watch and puts
changes into the queue, and all the while the flush loop reads the queue and sends what is in the
buffer. The last flush begins when no informer is left to be stopped and the loop has ended by
itself, and the feed is cancelled only after it.

A closing is a feed that comes to its end in this way, with all changes that were put into its queue
and with all that has been done to its buffer.

This is `shutdown` of a feed with `final_flush`.
-/

namespace ClusterFeed.Control

open Sync (SyncError)
open Time (Instant)
open Watch (Informer)

namespace Feed

/-- The informer of a type has ended or has been stopped. -/
def halt (gvr : Gvr) (f : Feed) : Feed :=
  { f with informers := f.informers.modify gvr Informer.stop }.closeIfAbandoned

/-- Whether the informer of a type runs. -/
def runs (f : Feed) (gvr : Gvr) : Bool := f.informers[gvr]?.any Informer.isRunning

/-- No informer is without a place, the loop is as it should be, and the queue is closed when there
is no informer left that runs. The queue and the buffer may hold anything. -/
structure Whole (f : Feed) : Prop where
  strays : f.strays = []
  loop : f.loop.Sound
  abandoned : f.allInformers.any Informer.isRunning = false → f.loop.intake.isOpen = false

end Feed

/-- How far a feed is with its end. -/
inductive Closing.Stage where
  /-- The informers of these types are left to be stopped. -/
  | stopping (left : List Gvr)
  /-- The batch of the last flush is on its way. -/
  | flushing (batch : Pending)
  /-- The last flush has ended. -/
  | flushed (result : Except SyncError FlushReport)
  /-- The feed has been cancelled. -/
  | cancelled (result : Except SyncError FlushReport)

namespace Closing.Stage

/-- The types whose informers are left to be stopped. -/
def left : Stage → List Gvr
  | .stopping left => left
  | _ => []

/-- Whether the last flush has begun. -/
def isLast : Stage → Bool
  | .stopping _ => false
  | _ => true

/-- The batch of the last flush as long as it is on its way. -/
def batch? : Stage → Option Pending
  | .flushing batch => some batch
  | _ => none

/-- What came of the last flush. -/
def result? : Stage → Option (Except SyncError FlushReport)
  | .flushed result => some result
  | .cancelled result => some result
  | _ => none

end Closing.Stage

/-- A feed that comes to its end. -/
structure Closing where
  /-- The feed. -/
  feed : Feed
  /-- How far it is. -/
  stage : Closing.Stage
  /-- The changes that were in the queue at the beginning, and those that came into it since. -/
  enqueued : List Change
  /-- What has been done to the buffer. -/
  log : List Outflow.Event

namespace Closing

/-- What happens to a feed that comes to its end. -/
inductive Event where
  /-- An informer that runs takes in what its watch tells. -/
  | watch (gvr : Gvr) (now : Instant) (e : Watch.Event)
  /-- An informer ends by itself. -/
  | quit (gvr : Gvr)
  /-- The flush loop takes a turn. -/
  | turn
  /-- The flush loop hears of the batch that is on its way. -/
  | answer (outcome : Except SyncError Sync.Response)
  /-- Time passes. -/
  | pass (nanos : Nat)
  /-- The next informer has been stopped. -/
  | stop
  /-- The last flush begins. -/
  | flush
  /-- The last flush ends. -/
  | finish (outcome : Except SyncError Sync.Response)
  /-- The feed is cancelled. -/
  | cancel

/-- A feed when it begins to come to its end. -/
def opening (f : Feed) : Closing := ⟨f, .stopping f.informers.keys, f.queue, []⟩

/-- The batch that is on its way, be it sent by the loop or by the last flush. -/
def underway? (x : Closing) : Option Pending := x.stage.batch?.or x.feed.loop.underway?

/-- The buffer and what is on its way from it, and the batches that were handed over so far. -/
def outflow (x : Closing) (sent : List Pending) : Outflow :=
  ⟨x.feed.loop.buffer, x.underway?, sent⟩

/-- The feed has come to another state; what is new in its queue has been put into it. -/
def refill (x : Closing) (f : Feed) : Closing :=
  { x with feed := f, enqueued := x.enqueued ++ f.queue.drop x.feed.queue.length }

/-- The last flush begins. -/
def flush (x : Closing) : Closing :=
  let stage : Stage := match x.feed.loop.buffer.startFlush.1 with
    | .done report => .flushed (.ok report)
    | .inFlight batch => .flushing batch
  { x with
    feed.loop.buffer := x.feed.loop.buffer.startFlush.2
    stage
    log := x.log ++ [.start] }

/-- One event; none when it cannot happen now. -/
def step? (x : Closing) : Event → Option Closing
  | .watch gvr now e =>
    if x.feed.runs gvr then some (x.refill (x.feed.takeIn gvr now e).closeIfAbandoned) else none
  | .quit gvr => some (x.refill (x.feed.halt gvr))
  | .turn => x.feed.loop.turn?.map fun l =>
    { x with feed.loop := l, log := x.log ++ x.feed.loop.deed?.toList }
  | .answer outcome => x.feed.loop.underway?.map fun _ =>
    { x with feed.loop := x.feed.loop.answer outcome, log := x.log ++ [.finish outcome] }
  | .pass nanos => some { x with feed.loop := x.feed.loop.advance nanos }
  | .stop => match x.stage with
    | .stopping (gvr :: left) => some { x.refill (x.feed.halt gvr) with stage := .stopping left }
    | _ => none
  | .flush => match x.stage with
    | .stopping [] => if x.feed.loop.isEnded then some x.flush else none
    | _ => none
  | .finish outcome => x.stage.batch?.map fun batch =>
    { x with
      feed.loop.buffer := (x.feed.loop.buffer.endFlush batch outcome).2
      stage := .flushed (x.feed.loop.buffer.endFlush batch outcome).1
      log := x.log ++ [.finish outcome] }
  | .cancel => match x.stage with
    | .flushed result => some { x with feed.loop.cancelled := true, stage := .cancelled result }
    | _ => none

/-- Events one after the other. -/
def run? (x : Closing) (es : List Event) : Option Closing := es.foldlM step? x

end Closing

/-! ## What comes into the queue -/

/-- Only the informers and the queue are different: changes have come into the queue, and it may
have been closed. -/
structure Feed.Fills (f' f : Feed) (chs : List Change) : Prop where
  strays : f'.strays = f.strays
  loop : f'.loop = { f.loop with intake := f'.loop.intake }
  queue : f'.queue = f.queue ++ chs
  built : ∀ c ∈ chs, c.Built
  closed : f.loop.intake.isOpen = false → f'.loop.intake.isOpen = false
  refused : f.inlet.intake.isOpen = false → chs = []

namespace Feed

variable {f f' f'' : Feed} {chs chs' : List Change}

theorem Fills.isEnded (h : f'.Fills f chs) : f'.loop.isEnded = f.loop.isEnded := by
  rw [h.loop]
  rfl

theorem isOpen_inlet (f : Feed) :
    f.inlet.intake.isOpen = (f.loop.intake.isOpen && !f.loop.isEnded) := by
  unfold inlet
  cases f.loop.isEnded with
  | true => exact (Bool.and_false _).symm
  | false => exact (Bool.and_true _).symm

theorem Fills.trans (h : f''.Fills f' chs') (h' : f'.Fills f chs) : f''.Fills f (chs ++ chs') := by
  refine ⟨h.strays.trans h'.strays, ?_, ?_, fun c hc => ?_, h.closed ∘ h'.closed, fun hr => ?_⟩
  · rw [h.loop, h'.loop]
  · rw [h.queue, h'.queue, List.append_assoc]
  · exact (List.mem_append.mp hc).elim (h'.built c) (h.built c)
  · rw [h'.refused hr, h.refused, List.append_nil]
    rw [isOpen_inlet, Bool.and_eq_false_iff] at hr ⊢
    rw [h'.isEnded]
    exact hr.imp_left h'.closed

/-- Another state of the informers in their places. -/
theorem fills_informers (f : Feed) (is : Std.ExtTreeMap Gvr Informer) :
    ({ f with informers := is } : Feed).Fills f [] :=
  ⟨rfl, rfl, (List.append_nil _).symm, fun _ hc => (nomatch hc), id, fun _ => rfl⟩

theorem fills_closeIfAbandoned (f : Feed) : f.closeIfAbandoned.Fills f [] := by
  unfold closeIfAbandoned
  split
  · exact fills_informers f f.informers
  · exact ⟨rfl, rfl, (List.append_nil _).symm, fun _ hc => (nomatch hc), fun _ => rfl, fun _ => rfl⟩

theorem fills_halt (gvr : Gvr) (f : Feed) : (f.halt gvr).Fills f [] :=
  (fills_closeIfAbandoned _).trans (fills_informers f _)

theorem exists_fills_deliver (f : Feed) (w : WatchedType) (now : Instant)
    (cs : List Watch.Callback) : ∃ chs, (f.deliver w now cs).Fills f chs := by
  obtain ⟨chs, h⟩ := f.inlet.exists_grows_takeAll (w := w) now cs
  have hintake : (f.deliver w now cs).loop.intake =
      { f.inlet.intake with items := f.inlet.intake.items ++ chs } := h.intake
  refine ⟨chs, rfl, rfl, ?_, h.built, fun hc => ?_, h.closed⟩
  · unfold queue
    rw [hintake]
    exact congrArg (· ++ chs) (queue_inlet f)
  · rw [hintake]
    show f.inlet.intake.isOpen = false
    rw [isOpen_inlet, hc, Bool.false_and]

theorem exists_fills_takeIn (f : Feed) (gvr : Gvr) (now : Instant) (e : Watch.Event) :
    ∃ chs, (f.takeIn gvr now e).closeIfAbandoned.Fills f chs := by
  have htake : ∃ chs, (f.takeIn gvr now e).Fills f chs := by
    unfold takeIn
    split
    · rename_i i hi
      obtain ⟨chs, h⟩ := exists_fills_deliver
        { f with informers := f.informers.insert gvr (i.handle e i.phase).2 }
        (i.handle e i.phase).2.resource now (i.handle e i.phase).1
      exact ⟨_, h.trans (fills_informers f _)⟩
    · exact ⟨[], fills_informers f f.informers⟩
  obtain ⟨chs, h⟩ := htake
  exact ⟨_, (fills_closeIfAbandoned _).trans h⟩

/-- A loop stays sound whatever comes into its queue. -/
theorem Fills.sound (h : f'.Fills f chs) (hf : f.loop.Sound) : f'.loop.Sound := by
  have hended : f'.loop.isEnded = true → f'.loop.intake.isOpen = false ∧ f'.queue = [] := by
    intro he
    rw [h.isEnded] at he
    obtain ⟨hopen, hitems⟩ := hf.ended he
    have hrefused : f.inlet.intake.isOpen = false := by rw [isOpen_inlet, hopen, Bool.false_and]
    refine ⟨h.closed hopen, ?_⟩
    rw [h.queue, h.refused hrefused, List.append_nil]
    exact hitems
  refine ⟨?_, ?_, ?_, fun batch hb => ?_, hended⟩
  · rw [h.loop]
    exact hf.uncancelled
  · rw [h.loop]
    exact hf.window
  · rw [h.loop]
    exact hf.pending
  · rw [h.loop] at hb
    exact hf.underway batch hb

theorem runs_closeIfAbandoned (f : Feed) (gvr : Gvr) :
    f.closeIfAbandoned.runs gvr = f.runs gvr := by
  unfold closeIfAbandoned
  split <;> rfl

/-- An informer that has been stopped does not run, and the others run as before. -/
theorem runs_halt (f : Feed) (gvr gvr' : Gvr) :
    (f.halt gvr).runs gvr' = (decide (gvr ≠ gvr') && f.runs gvr') := by
  unfold halt
  rw [runs_closeIfAbandoned]
  unfold runs
  rw [Std.ExtTreeMap.getElem?_modify]
  by_cases h : gvr = gvr'
  · subst h
    rw [if_pos Std.ReflCmp.compare_self]
    cases f.informers[gvr]? <;> simp [Informer.isRunning, Informer.stop]
  · rw [if_neg fun he => h (Std.LawfulEqCmp.compare_eq_iff_eq.mp he)]
    simp [h]

theorem runs_takeIn {f : Feed} {gvr gvr' : Gvr} {now : Instant} {e : Watch.Event}
    (h : (f.takeIn gvr now e).closeIfAbandoned.runs gvr' = true) :
    gvr = gvr' ∨ f.runs gvr' = true := by
  rw [runs_closeIfAbandoned] at h
  by_cases hg : gvr = gvr'
  · exact .inl hg
  · refine .inr ?_
    unfold takeIn at h
    split at h
    · unfold runs at h ⊢
      rwa [show (Feed.deliver _ _ _ _).informers = f.informers.insert gvr _ from rfl,
        KeyedMap.getElem?_insert_eq, if_neg hg] at h
    · exact h

end Feed

/-! ## What holds all the time -/

namespace Closing

/-- What is true of a feed all the time that it comes to its end. -/
structure Kept (f : Feed) (x : Closing) : Prop where
  strays : x.feed.strays = []
  sound : x.stage.isLast = false → x.feed.loop.Sound
  running : ∀ gvr, x.feed.runs gvr = true → gvr ∈ x.stage.left
  last : x.stage.isLast = true → x.feed.loop.isEnded = true ∧ x.feed.queue = []
  emptied : x.stage.isLast = true → (∀ e, x.stage.result? ≠ some (.error e)) →
    x.feed.loop.buffer.pending = ∅
  flow : ∃ sent, ((opening f).outflow f.loop.underway?.toList).run? x.log = some (x.outflow sent)
  enqueued : x.enqueued = Outflow.recorded x.log ++ x.feed.queue
  built : ∀ c ∈ x.enqueued, c ∈ f.queue ∨ c.Built
  steady : ∀ on, .attach on ∉ x.log

variable {f f' : Feed} {x y z : Closing} {chs : List Change}

theorem kept_opening (h : f.Whole) : (opening f).Kept f := by
  refine ⟨h.strays, fun _ => h.loop, fun gvr hgvr => ?_, fun hl => (nomatch hl),
    fun hl => (nomatch hl), ⟨_, rfl⟩, rfl, fun c hc => .inl hc, fun on hon => (nomatch hon)⟩
  show gvr ∈ f.informers.keys
  rw [Std.ExtTreeMap.mem_keys, ← Std.ExtTreeMap.isSome_getElem?_iff_mem]
  exact Option.isSome_of_any hgvr

/-! ### The informers -/

/-- When no informer is left to be stopped none runs. -/
theorem Kept.idle (h : x.Kept f) (hleft : x.stage.left = []) (gvr : Gvr) :
    x.feed.runs gvr ≠ true := by
  intro hrun
  have hmem := h.running gvr hrun
  rw [hleft] at hmem
  cases hmem

theorem refill_eq (h : f'.Fills x.feed chs) :
    x.refill f' = { x with feed := f', enqueued := x.enqueued ++ chs } := by
  unfold refill
  rw [h.queue, List.drop_left]

theorem Kept.refill (h : x.Kept f) (hf : f'.Fills x.feed chs)
    (hrun : ∀ gvr, f'.runs gvr = true → gvr ∈ x.stage.left) : (x.refill f').Kept f := by
  rw [refill_eq hf]
  have hbuffer : f'.loop.buffer = x.feed.loop.buffer := by rw [hf.loop]
  refine ⟨hf.strays.trans h.strays, fun hl => hf.sound (h.sound hl), hrun, fun hl => ?_,
    fun hl he => ?_, ?_, ?_, fun c hc => ?_, h.steady⟩
  · obtain ⟨hended, hqueue⟩ := h.last hl
    have hrefused : x.feed.inlet.intake.isOpen = false := by
      rw [Feed.isOpen_inlet, hended, Bool.not_true, Bool.and_false]
    refine ⟨hf.isEnded.trans hended, ?_⟩
    rw [hf.queue, hqueue, hf.refused hrefused, List.append_nil]
  · show f'.loop.buffer.pending = ∅
    rw [hbuffer]
    exact h.emptied hl he
  · obtain ⟨sent, hsent⟩ := h.flow
    refine ⟨sent, ?_⟩
    unfold outflow underway? at hsent ⊢
    rw [hf.loop]
    exact hsent
  · show x.enqueued ++ chs = Outflow.recorded x.log ++ f'.queue
    rw [h.enqueued, hf.queue, List.append_assoc]
  · exact (List.mem_append.mp hc).elim (h.built c) fun hc => .inr (hf.built c hc)

theorem Kept.watch (h : x.Kept f) {gvr : Gvr} (hgvr : x.feed.runs gvr = true) (now : Instant)
    (e : Watch.Event) : (x.refill (x.feed.takeIn gvr now e).closeIfAbandoned).Kept f := by
  obtain ⟨chs, hf⟩ := x.feed.exists_fills_takeIn gvr now e
  refine h.refill hf fun gvr' hrun => ?_
  rcases Feed.runs_takeIn hrun with rfl | hrun
  · exact h.running gvr hgvr
  · exact h.running gvr' hrun

theorem Kept.halt (h : x.Kept f) (gvr : Gvr) : (x.refill (x.feed.halt gvr)).Kept f := by
  refine h.refill (Feed.fills_halt gvr x.feed) fun gvr' hrun => h.running gvr' ?_
  rw [Feed.runs_halt] at hrun
  exact (Bool.and_eq_true_iff.mp hrun).2

/-- An informer that has been stopped is not left to be stopped any more. -/
theorem Kept.stop (h : x.Kept f) {gvr : Gvr} {left : List Gvr}
    (hs : x.stage = .stopping (gvr :: left)) :
    ({ x.refill (x.feed.halt gvr) with stage := .stopping left } : Closing).Kept f := by
  have hhalt := h.halt gvr
  have hstage : (x.refill (x.feed.halt gvr)).stage = .stopping (gvr :: left) := hs
  refine ⟨hhalt.strays, fun _ => hhalt.sound ?_, fun gvr' hrun => ?_, fun hl => (nomatch hl),
    fun hl => (nomatch hl), ?_, hhalt.enqueued, hhalt.built, hhalt.steady⟩
  · rw [hstage]
    rfl
  · have hmem := hhalt.running gvr' hrun
    rw [hstage] at hmem
    refine (List.mem_cons.mp hmem).resolve_left fun he => ?_
    have hstopped : (x.feed.halt gvr).runs gvr' = true := hrun
    rw [Feed.runs_halt, he] at hstopped
    simp at hstopped
  · have hflow := hhalt.flow
    unfold outflow underway? at hflow
    rw [hstage] at hflow
    exact hflow

/-! ### The flush loop -/

/-- As long as the loop has not ended the last flush has not begun. -/
theorem Kept.isLast_eq_false (h : x.Kept f) (hended : x.feed.loop.isEnded = false) :
    x.stage.isLast = false := by
  cases hl : x.stage.isLast with
  | false => rfl
  | true =>
    rw [(h.last hl).1] at hended
    cases hended

theorem Stage.batch?_eq_none {s : Stage} (h : s.isLast = false) : s.batch? = none := by
  cases s with
  | stopping left => rfl
  | _ => cases h

theorem outflow_eq (x : Closing) (h : x.stage.batch? = none) (sent : List Pending) :
    x.outflow sent = x.feed.loop.outflow sent := by
  unfold outflow underway?
  rw [h, Option.none_or]
  rfl

/-- The loop has done something to the buffer, and has read changes from the queue. -/
theorem Kept.work (h : x.Kept f) (hl : x.stage.isLast = false) {loop : FlushLoop}
    (hsound : loop.Sound) {es : List Outflow.Event}
    (hflow : ∀ sent, ∃ sent',
      (x.feed.loop.outflow sent).run? es = some (loop.outflow sent'))
    (hqueue : x.feed.queue = Outflow.recorded es ++ loop.intake.items)
    (hsteady : ∀ on, .attach on ∉ es) :
    ({ x with feed.loop := loop, log := x.log ++ es } : Closing).Kept f := by
  have hbatch := Stage.batch?_eq_none hl
  have hfirst : x.stage.isLast ≠ true := ne_true_of_eq_false hl
  refine ⟨h.strays, fun _ => hsound, h.running, fun ht => absurd ht hfirst,
    fun ht => absurd ht hfirst, ?_, ?_, h.built, fun on hon => ?_⟩
  · obtain ⟨sent, hsent⟩ := h.flow
    obtain ⟨sent', hsent'⟩ := hflow sent
    rw [← outflow_eq x hbatch] at hsent'
    refine ⟨sent', Outflow.run?_append.mpr ⟨_, hsent, hsent'.trans (congrArg some ?_)⟩⟩
    exact (outflow_eq { x with feed.loop := loop } hbatch sent').symm
  · show x.enqueued = _ ++ loop.intake.items
    rw [h.enqueued, hqueue, Outflow.recorded_append, List.append_assoc]
  · exact (List.mem_append.mp hon).elim (h.steady on) (hsteady on)

theorem Kept.turn (h : x.Kept f) {l : FlushLoop} (hl : x.feed.loop.turn? = some l) :
    ({ x with feed.loop := l, log := x.log ++ x.feed.loop.deed?.toList } : Closing).Kept f := by
  obtain ⟨hphase, hturned⟩ := FlushLoop.turned_of_turn? hl
  have hstage := h.isLast_eq_false (by rw [FlushLoop.isEnded, hphase])
  exact h.work hstage ((h.sound hstage).turn hl) (hturned.flows hphase) (hturned.items hphase)
    hturned.steady

theorem Kept.answer (h : x.Kept f) {batch : Pending} (hb : x.feed.loop.underway? = some batch)
    (outcome : Except SyncError Sync.Response) :
    ({ x with feed.loop := x.feed.loop.answer outcome, log := x.log ++ [.finish outcome] } :
      Closing).Kept f := by
  have hstage := h.isLast_eq_false (by
    rw [FlushLoop.isEnded, FlushLoop.underway?_eq_some_iff.mp hb])
  refine h.work hstage ((h.sound hstage).answer outcome) (fun sent => ⟨sent, ?_⟩) ?_ (by simp)
  · show (x.feed.loop.outflow sent).run? ([] ++ [.finish outcome]) = _
    exact Outflow.run?_concat.mpr ⟨_, rfl, FlushLoop.answer_flows hb outcome sent⟩
  · rw [FlushLoop.answer_eq hb]
    rfl

theorem Kept.pass (h : x.Kept f) (nanos : Nat) :
    ({ x with feed.loop := x.feed.loop.advance nanos } : Closing).Kept f :=
  ⟨h.strays, fun hl => (h.sound hl).withNow _, h.running, h.last, h.emptied, h.flow, h.enqueued,
    h.built, h.steady⟩

/-! ### The last flush -/

/-- The last flush begins only when no informer is left to be stopped and the loop has ended. -/
theorem step?_flush (h : x.step? .flush = some y) :
    x.stage = .stopping [] ∧ x.feed.loop.isEnded = true ∧ y = x.flush := by
  dsimp only [step?] at h
  split at h
  · split at h
    · cases h
      exact ⟨‹_›, ‹_›, rfl⟩
    · cases h
  · cases h

/-- When the last flush begins all that waits is on its way, or there is nobody to send it to. -/
theorem flush_flows (hs : x.stage = .stopping []) (hended : x.feed.loop.isEnded = true)
    (sent : List Pending) :
    ∃ sent', (x.outflow sent).step? .start = some (x.flush.outflow sent') := by
  have hnone := FlushLoop.underway?_of_ended hended
  have hbefore : x.outflow sent = ⟨x.feed.loop.buffer, none, sent⟩ := by
    unfold outflow underway?
    rw [hs, hnone]
    rfl
  have hloop : x.flush.feed.loop.underway? = none := hnone
  unfold outflow underway? flush at *
  rw [hbefore, hloop]
  obtain ⟨⟨began, b⟩, hstart⟩ : ∃ r, x.feed.loop.buffer.startFlush = r := ⟨_, rfl⟩
  cases began with
  | done report => exact ⟨sent, by simp only [Outflow.step?, hstart]; rfl⟩
  | inFlight batch => exact ⟨sent ++ [batch], by simp only [Outflow.step?, hstart]; rfl⟩

theorem isLast_flush (x : Closing) : x.flush.stage.isLast = true := by
  unfold flush
  dsimp only
  split <;> rfl

theorem Kept.flush (h : x.Kept f) (hs : x.stage = .stopping [])
    (hended : x.feed.loop.isEnded = true) : x.flush.Kept f := by
  have hfirst : x.stage.isLast = false := hs ▸ rfl
  have hqueue : x.feed.queue = [] := ((h.sound hfirst).ended hended).2
  refine ⟨h.strays, fun hl => ?_, fun gvr hrun => absurd hrun (h.idle (hs ▸ rfl) gvr),
    fun _ => ⟨hended, hqueue⟩, fun _ _ => ?_, ?_, ?_, h.built, fun on hon => ?_⟩
  · rw [isLast_flush] at hl
    cases hl
  · show x.feed.loop.buffer.startFlush.2.pending = ∅
    rw [Buffer.startFlush_snd]
  · obtain ⟨sent, hsent⟩ := h.flow
    obtain ⟨sent', hsent'⟩ := flush_flows hs hended sent
    exact ⟨sent', Outflow.run?_concat.mpr ⟨_, hsent, hsent'⟩⟩
  · show x.enqueued = Outflow.recorded (x.log ++ [.start]) ++ x.feed.queue
    rw [h.enqueued, Outflow.recorded_append]
    simp [Outflow.recorded]
  · exact (List.mem_append.mp hon).elim (h.steady on) (by simp)

theorem Stage.eq_flushing {s : Stage} {batch : Pending} (h : s.batch? = some batch) :
    s = .flushing batch := by
  cases s with
  | flushing b =>
    cases h
    rfl
  | _ => cases h

theorem Kept.finish (h : x.Kept f) {batch : Pending} (hb : x.stage.batch? = some batch)
    (outcome : Except SyncError Sync.Response) :
    ({ x with
        feed.loop.buffer := (x.feed.loop.buffer.endFlush batch outcome).2
        stage := .flushed (x.feed.loop.buffer.endFlush batch outcome).1
        log := x.log ++ [.finish outcome] } : Closing).Kept f := by
  have hs := Stage.eq_flushing hb
  have hlast : x.stage.isLast = true := hs ▸ rfl
  have hnone := FlushLoop.underway?_of_ended (h.last hlast).1
  have hempty : x.feed.loop.buffer.pending = ∅ := h.emptied hlast fun e he => by
    rw [hs] at he
    cases he
  refine ⟨h.strays, fun hl => (nomatch hl), fun gvr hrun => absurd hrun (h.idle (hs ▸ rfl) gvr),
    fun _ => h.last hlast, fun _ hok => ?_, ?_, ?_, h.built, fun on hon => ?_⟩
  · show (x.feed.loop.buffer.endFlush batch outcome).2.pending = ∅
    cases hr : (x.feed.loop.buffer.endFlush batch outcome).1 with
    | error e => exact absurd (congrArg some hr) (hok e)
    | ok report => exact (Buffer.endFlush_ok hr).trans hempty
  · obtain ⟨sent, hsent⟩ := h.flow
    refine ⟨sent, Outflow.run?_concat.mpr ⟨_, hsent, ?_⟩⟩
    unfold outflow underway?
    rw [hs]
    exact congrArg (fun u => some (⟨_, u, sent⟩ : Outflow)) hnone.symm
  · show x.enqueued = Outflow.recorded (x.log ++ [.finish outcome]) ++ x.feed.queue
    rw [h.enqueued, Outflow.recorded_append]
    simp [Outflow.recorded]
  · exact (List.mem_append.mp hon).elim (h.steady on) (by simp)

theorem Kept.cancel (h : x.Kept f) {result : Except SyncError FlushReport}
    (hs : x.stage = .flushed result) :
    ({ x with feed.loop.cancelled := true, stage := .cancelled result } : Closing).Kept f := by
  have hlast : x.stage.isLast = true := hs ▸ rfl
  refine ⟨h.strays, fun hl => (nomatch hl), fun gvr hrun => absurd hrun (h.idle (hs ▸ rfl) gvr),
    fun _ => h.last hlast, fun _ hok => h.emptied hlast fun e he => ?_, ?_, h.enqueued, h.built,
    h.steady⟩
  · rw [hs] at he
    exact hok e he
  · have hflow := h.flow
    unfold outflow underway? at hflow
    rw [hs] at hflow
    exact hflow

/-! ### Runs -/

theorem Kept.step (h : x.Kept f) {e : Event} (hs : x.step? e = some y) : y.Kept f := by
  cases e with
  | watch gvr now e =>
    dsimp only [step?] at hs
    split at hs
    · cases hs
      exact h.watch ‹_› now e
    · cases hs
  | quit gvr =>
    cases hs
    exact h.halt gvr
  | turn =>
    obtain ⟨l, hl, rfl⟩ := Option.map_eq_some_iff.mp hs
    exact h.turn hl
  | answer outcome =>
    obtain ⟨batch, hb, rfl⟩ := Option.map_eq_some_iff.mp hs
    exact h.answer hb outcome
  | pass nanos =>
    cases hs
    exact h.pass nanos
  | stop =>
    dsimp only [step?] at hs
    split at hs
    · cases hs
      exact h.stop ‹_›
    · cases hs
  | flush =>
    obtain ⟨hstage, hended, rfl⟩ := step?_flush hs
    exact h.flush hstage hended
  | finish outcome =>
    obtain ⟨batch, hb, rfl⟩ := Option.map_eq_some_iff.mp hs
    exact h.finish hb outcome
  | cancel =>
    dsimp only [step?] at hs
    split at hs
    · cases hs
      exact h.cancel ‹_›
    · cases hs

theorem kept_of_run (h : f.Whole) {es : List Event} (hrun : (opening f).run? es = some x) :
    x.Kept f :=
  Runs.induction (motive := fun _ x => x.Kept f) (kept_opening h)
    (fun _ _ _ _ _ hm hs => hm.step hs) hrun

end Closing

end ClusterFeed.Control
