import ClusterFeed.Proofs.Buffer.Requests
import ClusterFeed.Proofs.Control.Closing
import ClusterFeed.Proofs.Control.Coverage

/-!
# The last flush

When the last flush of a feed begins, every change that was put into its queue has come into the
buffer, once and in the order of the queue; nothing can be put into the queue any more, and nothing
else is on its way. So if there is an index and the last flush is accepted, nothing is left, and
each change was taken by the index, in one of the requests that were sent, or has given way to
another one of its id.

That the feeds of a manager end in this way is shown in `ClusterFeed.Proofs.Control.Ending`.

The last flush is the one that `shutdown` makes with `final_flush`.
-/

namespace ClusterFeed.Control

open Sync (SyncError)
open Time (Instant)
open Watch (Informer)

namespace Closing

/-- What became of the changes that waited or were on their way at the beginning, and of all that
came into the buffer since. -/
def ledger (f : Feed) (x : Closing) : Ledger :=
  (Ledger.takeover ((opening f).outflow f.loop.underway?.toList)).after x.log

/-- Everything has come into the buffer, and there is nothing that could do anything to it any
more. -/
structure Drained (x : Closing) : Prop where
  recorded : Outflow.recorded x.log = x.enqueued
  queue : x.feed.queue = []
  refused : ∀ c, x.feed.inlet.intake.offer? c = none
  stopped : ∀ i ∈ x.feed.allInformers, i.isRunning = false
  ended : x.feed.loop.isEnded = true
  alone : x.underway? = none
  uncancelled : x.feed.loop.cancelled = false

/-- Nothing is left, and every change that has an id was taken by the index or has given way to
another one. What the index took it was told in the requests of the batches that were handed
over. -/
structure Cleared (f : Feed) (x : Closing) : Prop where
  queue : x.feed.queue = []
  pending : x.feed.loop.buffer.pending = ∅
  alone : x.underway? = none
  changes : (x.ledger f).changes =
    (f.loop.underway?.getD ∅).values ++ f.loop.buffer.pending.values ++ x.enqueued
  fates : ∀ e ∈ (x.ledger f).lines, e.change.id ≠ "" →
    e.fate = .accepted ∨ e.fate = .superseded ∨ e.fate = .ignored
  told : ∃ sent, ((opening f).outflow f.loop.underway?.toList).run? x.log = some (x.outflow sent) ∧
    ∀ c, ⟨c, .accepted⟩ ∈ (x.ledger f).lines → c.Built →
      ∃ r ∈ sent.map Buffer.batchRequest, ∃ i ∈ r.items, c.item? = some i

/-- The last flush covers everything that was put into the queue of a feed. -/
structure Covers (f : Feed) (x : Closing) : Prop where
  /-- The log is what was done to the buffer. -/
  flow : ∃ sent, ((opening f).outflow f.loop.underway?.toList).run? x.log = some (x.outflow sent)
  /-- Changes come into the buffer in the order of the queue, and none is lost on the way. -/
  enqueued : x.enqueued = Outflow.recorded x.log ++ x.feed.queue
  /-- What the informers put into the queue has an id. -/
  named : ∀ c ∈ x.enqueued, c ∈ f.queue ∨ c.id ≠ ""
  /-- When the last flush begins there is nothing that it could miss, then or later. -/
  drained : ∀ y, x.step? .flush = some y →
    x.Drained ∧ ∀ es z, y.run? es = some z → z.enqueued = x.enqueued
  /-- When it has been accepted everything is settled. -/
  cleared : ∀ report, x.stage.result? = some (.ok report) → f.loop.buffer.attached = true →
    x.Cleared f

variable {f : Feed} {x y z : Closing} {es : List Event}

/-! ## When it begins -/

theorem offer?_of_closed {q : Intake} (h : q.isOpen = false) (c : Change) : q.offer? c = none := by
  unfold Intake.offer?
  rw [h, Bool.false_and]
  rfl

theorem Kept.drained (h : x.Kept f) (hs : x.stage = .stopping [])
    (hended : x.feed.loop.isEnded = true) : x.Drained := by
  have hsound : x.feed.loop.Sound := h.sound (hs ▸ rfl)
  obtain ⟨hopen, hqueue⟩ := hsound.ended hended
  refine ⟨?_, hqueue, offer?_of_closed ?_, fun i hi => ?_, hended, ?_, hsound.uncancelled⟩
  · have hall := h.enqueued
    rw [show x.feed.queue = [] from hqueue, List.append_nil] at hall
    exact hall.symm
  · rw [Feed.isOpen_inlet, hopen, Bool.false_and]
  · unfold Feed.allInformers at hi
    rw [h.strays, List.nil_append] at hi
    obtain ⟨gvr, hgvr⟩ := KeyedMap.mem_values.mp hi
    have hidle := h.idle (hs ▸ rfl) gvr
    unfold Feed.runs at hidle
    rw [hgvr] at hidle
    exact eq_false_of_ne_true hidle
  · unfold underway?
    rw [hs, FlushLoop.underway?_of_ended hended]
    rfl

theorem Stage.left_eq_nil {s : Stage} (h : s.isLast = true) : s.left = [] := by
  cases s with
  | stopping left => cases h
  | _ => rfl

/-- Once the last flush has begun nothing is put into the queue. -/
theorem Kept.step_last (h : x.Kept f) (hl : x.stage.isLast = true) {e : Event}
    (hs : x.step? e = some y) : y.stage.isLast = true ∧ y.enqueued = x.enqueued := by
  have hended := (h.last hl).1
  have hstage : ∀ left, x.stage ≠ .stopping left := fun left hs => by
    rw [hs] at hl
    cases hl
  cases e with
  | watch gvr now e =>
    dsimp only [step?] at hs
    rw [if_neg (h.idle (Stage.left_eq_nil hl) gvr)] at hs
    cases hs
  | quit gvr =>
    cases hs
    rw [refill_eq (Feed.fills_halt gvr x.feed)]
    exact ⟨hl, List.append_nil _⟩
  | turn =>
    obtain ⟨l, hturn, rfl⟩ := Option.map_eq_some_iff.mp hs
    rw [FlushLoop.isEnded, (FlushLoop.turned_of_turn? hturn).1] at hended
    cases hended
  | answer outcome =>
    obtain ⟨batch, hb, rfl⟩ := Option.map_eq_some_iff.mp hs
    rw [FlushLoop.underway?_of_ended hended] at hb
    cases hb
  | pass nanos =>
    cases hs
    exact ⟨hl, rfl⟩
  | stop =>
    dsimp only [step?] at hs
    split at hs
    · exact absurd ‹_› (hstage _)
    · cases hs
  | flush => exact absurd (step?_flush hs).1 (hstage _)
  | finish outcome =>
    obtain ⟨batch, hb, rfl⟩ := Option.map_eq_some_iff.mp hs
    exact ⟨rfl, rfl⟩
  | cancel =>
    dsimp only [step?] at hs
    split at hs
    · cases hs
      exact ⟨rfl, rfl⟩
    · cases hs

theorem Kept.enqueued_of_run (h : x.Kept f) (hl : x.stage.isLast = true)
    (hrun : x.run? es = some z) : z.enqueued = x.enqueued := by
  refine (Runs.induction (motive := fun _ z =>
    z.Kept f ∧ z.stage.isLast = true ∧ z.enqueued = x.enqueued) ⟨h, hl, rfl⟩
    (fun _ m e m' _ hm hs => ?_) hrun).2.2
  obtain ⟨hkept, hlast, heq⟩ := hm
  obtain ⟨hlast', heq'⟩ := hkept.step_last hlast hs
  exact ⟨hkept.step hs, hlast', heq'.trans heq⟩

/-! ## When it has been accepted -/

/-- Something has come of the last flush: it has begun, and its batch is not on its way any more. -/
theorem Stage.of_result? {s : Stage} {r : Except SyncError FlushReport} (h : s.result? = some r) :
    s.isLast = true ∧ s.batch? = none := by
  cases s with
  | stopping left => cases h
  | flushing batch => cases h
  | flushed result => exact ⟨rfl, rfl⟩
  | cancelled result => exact ⟨rfl, rfl⟩

theorem Kept.cleared (h : x.Kept f) (hf : f.Whole) {report : FlushReport}
    (hr : x.stage.result? = some (.ok report)) (ha : f.loop.buffer.attached = true) :
    x.Cleared f := by
  obtain ⟨hlast, hbatch⟩ := Stage.of_result? hr
  obtain ⟨hended, hqueue⟩ := h.last hlast
  have hpending : x.feed.loop.buffer.pending = ∅ := h.emptied hlast fun e he => by
    rw [hr] at he
    cases he
  have halone : x.underway? = none := by
    unfold underway?
    rw [hbatch, FlushLoop.underway?_of_ended hended]
    rfl
  have hunderway : (f.loop.underway?.getD ∅).Keyed := by
    cases hu : f.loop.underway? with
    | none => exact Pending.keyed_empty
    | some batch => exact hf.loop.underway batch hu
  obtain ⟨sent, hflow⟩ := h.flow
  have hdescribes : (x.ledger f).Describes (x.outflow sent) :=
    (Ledger.describes_takeover hf.loop.pending hunderway).run hflow
  have hspares : (x.ledger f).Spares := (Ledger.spares_takeover ha).after h.steady
  obtain ⟨later, hvouches⟩ := (Ledger.vouches_takeover rfl).run
    (Ledger.describes_takeover hf.loop.pending hunderway) hflow
  refine ⟨hqueue, hpending, halone, ?_, fun e he hid => ?_, sent, hflow, fun c hc hbuilt => ?_⟩
  · have henqueued := h.enqueued
    rw [hqueue, List.append_nil] at henqueued
    unfold ledger
    rw [Ledger.changes_after, Ledger.changes_takeover, henqueued]
    rfl
  · exact hspares.fate_of_quiet hdescribes hpending halone he hid
  · have hhanded := hvouches.handed
    rw [show (x.outflow sent).underway = none from halone, Option.toList_none,
      List.append_nil] at hhanded
    rw [show sent = _ from hhanded]
    exact hvouches.exists_item hc hbuilt

/-- Whatever is in the queue and in the buffer of a feed when it begins to come to its end, and
whatever its informers and its loop do until then, the last flush covers it. -/
theorem covers_of_run (hf : f.Whole) (hrun : (opening f).run? es = some x) : x.Covers f := by
  have h := kept_of_run hf hrun
  refine ⟨h.flow, h.enqueued, fun c hc => (h.built c hc).imp_right Change.Built.id_ne_empty,
    fun y hy => ?_, fun report hr ha => h.cleared hf hr ha⟩
  obtain ⟨hstage, hended, rfl⟩ := step?_flush hy
  exact ⟨h.drained hstage hended, fun es z hz =>
    (h.flush hstage hended).enqueued_of_run (isLast_flush x) hz⟩

/-! ### A run with a crowded queue -/

/-- The snapshot of a pod. -/
def podAt (name : String) (seconds : Nat) : Snapshot :=
  ⟨name, "default", "Pod", "v1", ∅, ∅, ⟨seconds, 0⟩⟩

/-- A feed with something everywhere: a snapshot is on its way, a delete waits, and of the two
snapshots in the queue one is of the resource that is to be deleted. -/
def crowdedFeed : Feed :=
  let f := Feed.beginning .usual "default" ⟨"http://index", ⟨0⟩, ⟨0⟩, none⟩ 0 twoTypes
  { f with
    loop.buffer := f.loop.buffer.record (.delete (podAt "db" 0).identifier)
    loop.intake.items := [.upsert (podAt "db" 1), .upsert (podAt "cache" 2)]
    loop.phase := .sending (f.loop.buffer.record (.upsert (podAt "web" 0))).pending }

/-- Both informers report something before they are stopped. The sending that is on its way fails,
and the one that the loop begins then is refused in part. -/
def crowdedRun : List Event :=
  [.watch ⟨"", "v1", "pods"⟩ ⟨3, 0⟩ (.applied (Watch.labelled (some "default") "web" ∅)),
    .answer (.error (.http "refused")), .turn, .pass 10000000000, .stop, .turn,
    .watch ⟨"apiextensions.k8s.io", "v1", "customresourcedefinitions"⟩ ⟨4, 0⟩
      (.restarted [Watch.labelled none "gadgets.example.org" ∅]),
    .answer (.error (.partialFailure ⟨false, none, some ⟨"PARTIAL", "",
      some ⟨0, 0, [⟨"default:v1:Pod:db", ""⟩]⟩⟩⟩)),
    .stop, .turn, .turn, .turn, .turn, .flush, .finish (.ok ⟨true, none, none⟩), .cancel]

theorem isSome_crowdedRun : ((opening crowdedFeed).run? crowdedRun).isSome = true := by
  decide +kernel

/-- The feed at the end of that run. -/
def crowdedEnd : Closing := ((opening crowdedFeed).run? crowdedRun).get isSome_crowdedRun

theorem whole_crowdedFeed : crowdedFeed.Whole := by
  have hnone : crowdedFeed.strays.isEmpty = true := by decide +kernel
  have hruns : crowdedFeed.allInformers.any Informer.isRunning = true := by decide +kernel
  have hkeyed : ∀ c, ((Buffer.new ⟨0⟩ true).record c).pending.Keyed :=
    fun c => Pending.keyed_empty.record c
  refine ⟨List.isEmpty_iff.mp hnone, ⟨rfl, by decide +kernel, hkeyed _, fun batch hb => ?_,
    fun hended => (nomatch hended)⟩, fun hidle => ?_⟩
  · cases hb
    exact hkeyed _
  · rw [hruns] at hidle
    cases hidle

theorem accepted_crowdedRun : ∃ report, crowdedEnd.stage.result? = some (.ok report) := by
  have hok : crowdedEnd.stage.result?.any Except.isOk = true := by decide +kernel
  cases hr : crowdedEnd.stage.result? with
  | none => simp [hr] at hok
  | some result =>
    cases result with
    | ok report => exact ⟨report, rfl⟩
    | error e => simp [hr, Except.isOk, Except.toBool] at hok

theorem covers_of_crowdedRun :
    crowdedFeed.Whole ∧ crowdedEnd.Covers crowdedFeed ∧ crowdedEnd.Cleared crowdedFeed := by
  have hcovers : crowdedEnd.Covers crowdedFeed :=
    covers_of_run whole_crowdedFeed (Option.some_get isSome_crowdedRun).symm
  obtain ⟨report, hreport⟩ := accepted_crowdedRun
  exact ⟨whole_crowdedFeed, hcovers, hcovers.cleared report hreport rfl⟩

end Closing

end ClusterFeed.Control
