import ClusterFeed.Watch.Relay
import ClusterFeed.Proofs.Buffer.Outflow
import ClusterFeed.Proofs.Feeding.Receiver
import ClusterFeed.Proofs.Watch.Inflow

/-!
# The pipeline of one type

The way of the objects of one type from the watch into the index: events change the cache and put
changes into the queue, the buffer takes them from there one by one, and sendings hand them to the
index. All of this happens in any order.

A change can be in four places, and the newer of two changes of one id is always in the earlier
place: the queue, the buffer, the batch that is on its way, the index.

The steps are `dispatch` with a forwarder behind it, `record` in `run`, and the two halves of
`flush`.
-/

namespace ClusterFeed

open Cluster (Manifest Key)
open Sync (SyncError)
open Time (Duration Instant)

/-- What happens to a pipeline. -/
inductive Pipeline.Event where
  /-- The watch tells something. -/
  | watch (now : Instant) (e : Watch.Event)
  /-- The buffer takes a change from the queue. -/
  | read
  /-- A sending begins. -/
  | start
  /-- A sending ends; if it failed as a whole, the items with certain ids still took effect. -/
  | finish (outcome : Except SyncError Sync.Response) (reached : String → Bool)

/-- The pipeline of one type. -/
structure Pipeline where
  /-- The cache and the queue. -/
  relay : Watch.Relay
  /-- The buffer and what is on its way from it. -/
  outflow : Outflow
  /-- The index. -/
  index : Index

namespace Pipeline

/-- A pipeline with nothing in it, and with an index to send to. -/
def new (w : WatchedType) (capacity : Nat) (window : Duration) : Pipeline :=
  ⟨.new w capacity, .new (.new window true), ∅⟩

/-- The objects of the cluster, as they were seen last. -/
def cache (p : Pipeline) : Watch.Cache := p.relay.cache

/-- The changes in the queue. -/
def queue (p : Pipeline) : List Change := p.relay.inlet.intake.items

/-- The changes that wait. -/
def pending (p : Pipeline) : Pending := p.outflow.buffer.pending

/-- The changes that are on their way. -/
def underway (p : Pipeline) : Pending := p.outflow.underway.getD ∅

/-- How many changes never got into the queue. -/
def dropped (p : Pipeline) : Nat := p.relay.inlet.dropped

/-- The pipeline with other changes in the queue. -/
def withQueue (p : Pipeline) (cs : List Change) : Pipeline :=
  { p with relay.inlet.intake.items := cs }

/-- One event; none when it cannot happen now. -/
def step? (p : Pipeline) : Event → Option Pipeline
  | .watch now e => (p.relay.handle? now e).map fun r => { p with relay := r.2 }
  | .read =>
    match p.queue with
    | [] => none
    | c :: cs => (p.outflow.step? (.record c)).map fun o => { p.withQueue cs with outflow := o }
  | .start => (p.outflow.step? .start).map fun o => { p with outflow := o }
  | .finish outcome reached =>
    p.outflow.underway.bind fun batch =>
      (p.outflow.step? (.finish outcome)).map fun o =>
        { p with
          outflow := o
          index := p.index.apply (Index.effect outcome reached) (Buffer.batchRequest batch) }

/-- Events one after the other. -/
def run? (p : Pipeline) (es : List Event) : Option Pipeline := es.foldlM step? p

/-- Nothing is in the queue, nothing waits, and nothing is on its way. -/
def Quiet (p : Pipeline) : Prop := p.queue = [] ∧ p.pending = ∅ ∧ p.outflow.underway = none

/-- The newest change of an id on its way to the index. -/
def newest? (p : Pipeline) (id : String) : Option Change :=
  (p.queue.findRev? fun c => decide (c.id = id)).or (p.pending[id]?.or p.underway[id]?)

/-- What the index will have been told of an id once all changes have reached it. -/
def told (p : Pipeline) (id : String) : Option Face :=
  match p.newest? id with
  | some c => c.verdict
  | none => (p.index[id]?).map Snapshot.face

theorem told_of_quiet {p : Pipeline} (h : p.Quiet) (id : String) :
    p.told id = (p.index[id]?).map Snapshot.face := by
  obtain ⟨hq, hp, hu⟩ := h
  unfold told newest? underway
  rw [hq, hp, hu]
  simp

/-! ## Events that only move changes on -/

variable {p q : Pipeline} (id : String)

/-- What the buffer takes from the queue comes to wait, unless it is an upsert behind a delete. -/
theorem told_read {c : Change} {cs : List Change} (hs : p.step? .read = some q)
    (hq : p.queue = c :: cs) (hne : c.id ≠ "")
    (hcalm : c.isUpsert → ∀ old, p.pending[c.id]? = some old → ¬ old.isDelete) :
    q.told id = p.told id := by
  simp only [step?, hq] at hs
  cases hs
  have honto : c.onto p.pending[c.id]? = c := by
    unfold Change.onto Change.isLostOn
    cases hp : p.pending[c.id]? with
    | none => rfl
    | some old =>
      by_cases hu : c.isUpsert = true
      · simp [hcalm hu old hp]
      · simp [hu]
  have hpending : (p.outflow.buffer.record c).pending[id]? =
      if c.id = id then some c else p.pending[id]? := by
    rw [Buffer.getElem?_record]
    by_cases h : c.id = id
    · subst h
      rw [if_pos ⟨rfl, hne⟩, if_pos rfl]
      exact congrArg some honto
    · rw [if_neg h, if_neg fun hc => h hc.1]
      rfl
  have hnewest : newest? { p.withQueue cs with
      outflow := { p.outflow with buffer := p.outflow.buffer.record c } } id = p.newest? id := by
    unfold newest?
    rw [hq, List.findRev?]
    show (cs.findRev? _).or (((p.outflow.buffer.record c).pending[id]?).or _) = _
    rw [hpending]
    cases cs.findRev? fun c => decide (c.id = id) with
    | some c' => rfl
    | none =>
      by_cases h : c.id = id
      · simp [h]
      · simp [h, underway]
  unfold told
  rw [hnewest]
  rfl

/-- All that waits is on its way when a sending has begun. -/
theorem told_start (hs : p.step? .start = some q) (ha : p.outflow.buffer.attached = true) :
    q.told id = p.told id := by
  obtain ⟨o, ho, rfl⟩ := Option.map_eq_some_iff.mp hs
  obtain ⟨hnone, hb, hcase⟩ := Outflow.step?_start ho
  have hpending : o.buffer.pending = ∅ := by rw [hb]
  have hunderway : o.underway.getD ∅ = p.pending := by
    rcases hcase with ⟨hu, -, hempty | hno⟩ | ⟨hu, -⟩
    · rw [hu]
      exact hempty.symm
    · rw [ha] at hno
      cases hno
    · rw [hu]
      rfl
  have hnewest : newest? { p with outflow := o } id = p.newest? id := by
    unfold newest? underway pending
    rw [hpending, hunderway, hnone]
    simp [queue, pending]
  unfold told
  rw [hnewest]

/-- When a sending ends, the index knows of its changes, or they wait again, or newer ones of their
ids wait. -/
theorem told_finish {outcome : Except SyncError Sync.Response} {reached : String → Bool}
    (hs : p.step? (.finish outcome reached) = some q) (hsound : p.underway.Sound) :
    q.told id = p.told id := by
  obtain ⟨batch, hbatch, hs⟩ := Option.bind_eq_some_iff.mp hs
  obtain ⟨o, ho, rfl⟩ := Option.map_eq_some_iff.mp hs
  obtain ⟨batch', hbatch', hb, hu, -⟩ := Outflow.step?_finish ho
  rw [hbatch] at hbatch'
  cases hbatch'
  have hunderway : p.underway = batch := by rw [underway, hbatch, Option.getD_some]
  rw [hunderway] at hsound
  have hface := Index.map_face_apply hsound p.index (Index.effect outcome reached) id
  unfold told newest?
  rw [hunderway]
  unfold underway pending
  rw [hb, hu, Buffer.getElem?_endFlush]
  show (match (p.queue.findRev? _).or _ with
    | some c => c.verdict
    | none => ((p.index.apply _ _)[id]?).map Snapshot.face) = _
  cases p.queue.findRev? fun c => decide (c.id = id) with
  | some c => rfl
  | none =>
    rw [Option.none_or, Option.none_or]
    cases hp : p.outflow.buffer.pending[id]? with
    | some c => rfl
    | none =>
      rw [Option.none_or, Option.none_or]
      cases hc : batch[id]? with
      | none =>
        rw [hc] at hface
        simpa using hface
      | some c =>
        rw [hc] at hface
        by_cases ht : Buffer.wasTaken outcome id = true
        · rw [Index.effect_of_wasTaken ht reached] at hface
          simpa [ht] using hface
        · simp [ht]

end Pipeline

end ClusterFeed
