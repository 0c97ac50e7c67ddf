import ClusterFeed.Proofs.Buffer.Waiting
import ClusterFeed.Proofs.Runs

/-!
# The outflow of a buffer

A buffer together with the batch that is on its way from it. Changes come in at any time, an index
is attached or removed at any time, and sendings begin and end, but never two of them at once. The
statements about all runs of a buffer are statements about this system.
-/

namespace ClusterFeed

open Sync (SyncError)

/-- What happens to a buffer. -/
inductive Outflow.Event where
  /-- A change comes in. -/
  | record (c : Change)
  /-- A sending begins. -/
  | start
  /-- The sending that is on its way ends. -/
  | finish (outcome : Except SyncError Sync.Response)
  /-- An index to send to is attached or removed. -/
  | attach (on : Bool)

/-- A buffer and what is on its way from it. -/
structure Outflow where
  /-- The buffer. -/
  buffer : Buffer
  /-- The batch that is on its way. -/
  underway : Option Pending
  /-- The batches that were handed over so far, the oldest first. -/
  sent : List Pending

namespace Outflow

/-- A buffer from which nothing was sent yet. -/
def new (b : Buffer) : Outflow := ⟨b, none, []⟩

/-- One event; none when it cannot happen now: a sending begins only when none is on its way, and
ends only when one is. -/
def step? (o : Outflow) : Event → Option Outflow
  | .record c => some { o with buffer := o.buffer.record c }
  | .attach on => some { o with buffer := { o.buffer with attached := on } }
  | .start =>
    match o.underway with
    | some _ => none
    | none =>
      match o.buffer.startFlush with
      | (.done _, b) => some { o with buffer := b }
      | (.inFlight batch, b) => some ⟨b, some batch, o.sent ++ [batch]⟩
  | .finish outcome =>
    o.underway.map fun batch =>
      { o with buffer := (o.buffer.endFlush batch outcome).2, underway := none }

/-- Events one after the other. -/
def run? (o : Outflow) (es : List Event) : Option Outflow := es.foldlM step? o

/-- The changes that came in, the oldest first. -/
def recorded (es : List Event) : List Change :=
  es.filterMap fun
    | .record c => some c
    | _ => none

theorem recorded_append (es es' : List Event) :
    recorded (es ++ es') = recorded es ++ recorded es' :=
  List.filterMap_append

theorem run?_append {o o' : Outflow} {es es' : List Event} :
    o.run? (es ++ es') = some o' ↔ ∃ m, o.run? es = some m ∧ m.run? es' = some o' :=
  Runs.append_eq_some_iff

theorem run?_concat {o o' : Outflow} {es : List Event} {e : Event} :
    o.run? (es ++ [e]) = some o' ↔ ∃ m, o.run? es = some m ∧ m.step? e = some o' :=
  Runs.concat_eq_some_iff

/-- What holds at the beginning and is kept by every event holds after every run. -/
theorem run?_induction {motive : List Event → Outflow → Prop} {o : Outflow}
    (init : motive [] o)
    (step : ∀ es m e m', o.run? es = some m → motive es m → m.step? e = some m' →
      motive (es ++ [e]) m')
    {es : List Event} {o' : Outflow} (h : o.run? es = some o') : motive es o' :=
  Runs.induction init step h

/-- How a sending begins: all that waits is on its way, or, without an index, is gone. -/
theorem step?_start {o o' : Outflow} (h : o.step? .start = some o') :
    o.underway = none ∧ o'.buffer = { o.buffer with pending := ∅ } ∧
      ((o'.underway = none ∧ o'.sent = o.sent ∧
          (o.buffer.pending = ∅ ∨ o.buffer.attached = false)) ∨
        (o'.underway = some o.buffer.pending ∧ o'.sent = o.sent ++ [o.buffer.pending] ∧
          o.buffer.pending ≠ ∅ ∧ o.buffer.attached = true)) := by
  cases hu : o.underway with
  | some batch => simp [step?, hu] at h
  | none =>
    simp only [step?, hu] at h
    by_cases hp : o.buffer.pending = ∅
    · rw [Buffer.startFlush_of_empty hp] at h
      cases h
      exact ⟨rfl, rfl, .inl ⟨rfl, rfl, .inl hp⟩⟩
    · cases ha : o.buffer.attached with
      | false =>
        rw [Buffer.startFlush_of_unattached hp ha] at h
        cases h
        exact ⟨rfl, rfl, .inl ⟨rfl, rfl, .inr rfl⟩⟩
      | true =>
        rw [Buffer.startFlush_of_attached hp ha] at h
        cases h
        exact ⟨rfl, rfl, .inr ⟨rfl, rfl, hp, rfl⟩⟩

/-- How a sending ends. -/
theorem step?_finish {o o' : Outflow} {outcome : Except SyncError Sync.Response}
    (h : o.step? (.finish outcome) = some o') :
    ∃ batch, o.underway = some batch ∧ o'.buffer = (o.buffer.endFlush batch outcome).2 ∧
      o'.underway = none ∧ o'.sent = o.sent := by
  obtain ⟨batch, hu, rfl⟩ := Option.map_eq_some_iff.mp h
  exact ⟨batch, hu, rfl, rfl, rfl⟩

/-- A place in the buffer stays taken until a sending begins. -/
theorem step?_occupied {o o' : Outflow} {e : Event} (h : o.step? e = some o') (he : e ≠ .start)
    {id : String} (hp : o.buffer.pending[id]?.isSome) : o'.buffer.pending[id]?.isSome := by
  cases e with
  | record c =>
    cases h
    show ((o.buffer.record c).pending[id]?).isSome
    rw [Buffer.getElem?_record]
    split
    · rfl
    · exact hp
  | start => exact absurd rfl he
  | finish outcome =>
    obtain ⟨batch, -, hb, -, -⟩ := step?_finish h
    obtain ⟨c, hc⟩ := Option.isSome_iff_exists.mp hp
    rw [hb, Buffer.getElem?_endFlush, hc]
    rfl
  | attach on =>
    cases h
    exact hp

end Outflow

end ClusterFeed
