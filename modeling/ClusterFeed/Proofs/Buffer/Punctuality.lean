import ClusterFeed.Proofs.Buffer.Duty
import Mathlib.Data.List.Chain

/-!
# When sendings begin

A flush loop by a clock that goes in whole milliseconds, and goes on only while the loop waits for
something to happen or for an answer. Whatever comes into the queue meanwhile, and however long the
answers take, a sending begins as soon as it is due and the one before it has ended. So the first
one does not begin before a window has passed, and of two that follow each other the second does not
begin much sooner than a window after the first.

A sending that is due comes before everything in the queue. It takes along all that has come into
the buffer since the one before it, but for changes that gave way to others of their id or came in
behind a delete.

The loop is `run` of the buffer with its ticks.
-/

namespace ClusterFeed

open Sync (SyncError)

namespace Ledger

/-- A change that comes in waits, or has given way, until a sending begins. -/
theorem exists_recorded_after (l : Ledger) (c : Change) {es : List Outflow.Event}
    (hes : .start ∉ es) : ∃ f, (l.after (.record c :: es)).lines[l.lines.length]? = some ⟨c, f⟩ ∧
      (f = .waiting ∨ f = .superseded ∨ f = .ignored ∨ (f = .dropped ∧ c.id = "")) := by
  induction es using List.reverseRecOn with
  | nil =>
    have hc : (l.changes ++ [c])[l.lines.length]? = some c := by
      rw [changes, List.getElem?_append_right (by simp)]
      simp
    obtain ⟨f, hf⟩ := getElem?_changes.mp ((congrArg (·[l.lines.length]?)
      (changes_step l (.record c))).trans hc)
    refine ⟨f, hf, ?_⟩
    cases turn_of_step hf with
    | kept hold => simp at hold
    | dropped _ hid => exact .inr (.inr (.inr ⟨rfl, hid⟩))
    | ignored => exact .inr (.inr (.inl rfl))
    | entered => exact .inl rfl
    | superseded hold => simp at hold
  | append_singleton es e ih =>
    have he : e ≠ .start := fun he => hes (by simp [he])
    obtain ⟨f, hf, hfate⟩ := ih fun hs => hes (List.mem_append_left _ hs)
    rw [← List.cons_append, after_concat]
    generalize l.after (.record c :: es) = m at *
    have hlt : l.lines.length < m.lines.length := (List.getElem?_eq_some_iff.mp hf).1
    obtain ⟨g, hg⟩ := getElem?_changes.mp
      (getElem?_changes_step e (getElem?_changes.mpr ⟨f, hf⟩))
    refine ⟨g, hg, ?_⟩
    -- what is not on its way is neither taken nor put back
    have hnot : m.lines[l.lines.length]? ≠ some ⟨c, .underway⟩ := by
      intro hu
      rw [hf] at hu
      cases hu
      simp at hfate
    cases turn_of_step hg with
    | kept hold =>
      rw [hf] at hold
      cases hold
      exact hfate
    | superseded => exact .inr (.inl rfl)
    | dropped hlen => omega
    | ignored hlen => omega
    | entered hlen => omega
    | handedOver => exact absurd rfl he
    | discarded => exact absurd rfl he
    | taken hu => exact absurd hu hnot
    | outdated hu => exact absurd hu hnot
    | putBack hu => exact absurd hu hnot

end Ledger

namespace FlushLoop

variable {l : FlushLoop}

/-- A loop that waits for something to happen has no sending that is due. -/
theorem lt_deadline_of_idle (hphase : l.phase = .waiting) (hidle : l.turn? = none) :
    l.now < l.deadline := by
  by_contra hdue
  unfold turn? at hidle
  simp only [hphase] at hidle
  split at hidle
  · cases hidle
  · rw [if_pos (not_lt.mp hdue)] at hidle
    cases hidle

theorem turn?_of_due (hphase : l.phase = .waiting) (hc : l.cancelled = false)
    (hdue : l.deadline ≤ l.now) : l.turn? = some l.tick := by
  unfold turn?
  simp [hphase, hc, hdue]

theorem deed?_of_due (hphase : l.phase = .waiting) (hc : l.cancelled = false)
    (hdue : l.deadline ≤ l.now) : l.deed? = some .start := by
  unfold deed?
  simp [hphase, hc, hdue]

/-- A sending that is a little late does not put off the next one, so that this one can come sooner
than a window later, but not much. -/
theorem le_nextDeadline (window deadline now : Nat) :
    now + window ≤ nextDeadline window deadline now + slack := by
  unfold nextDeadline
  split <;> omega

end FlushLoop

/-! ## The loop by the clock -/

/-- A sending that has begun. -/
structure Sending where
  /-- When it was due. -/
  due : Nat
  /-- When the one before it had ended, or the loop had begun. -/
  free : Nat
  /-- When it began. -/
  begun : Nat
  /-- What had been done to the buffer before it. -/
  log : List Outflow.Event
  /-- What waited in the buffer. -/
  batch : Pending

/-- A flush loop on duty, by the clock. -/
structure Timed where
  /-- The loop and what has happened to it. -/
  duty : Duty
  /-- When the last sending ended, or the loop began. -/
  free : Nat
  /-- The sendings that have begun, the oldest first. -/
  sendings : List Sending

namespace Timed

/-- The nanoseconds from one stroke of the clock to the next. -/
def stroke : Nat := 1000000

/-- A loop at its beginning. -/
def opening (b : Buffer) (q : Intake) (now : Nat) : Timed := ⟨.opening b q now, now, []⟩

/-- The sending if it begins now. -/
def present (x : Timed) : Sending :=
  ⟨x.duty.loop.deadline, x.free, x.duty.loop.now, x.duty.log, x.duty.loop.buffer.pending⟩

/-- The sending that begins with the next turn, if one does. -/
def next? (x : Timed) : Option Sending :=
  match x.duty.loop.deed? with
  | some .start => some x.present
  | _ => none

/-- The sending that is due begins. -/
def launch (x : Timed) : Timed where
  duty := { x.duty with loop := x.duty.loop.tick, log := x.duty.log ++ [.start] }
  free := if x.duty.loop.tick.underway?.isNone then x.duty.loop.now else x.free
  sendings := x.sendings ++ [x.present]

/-- Whether an event can happen now, by the clock: it strikes only when the loop has nothing to
do. -/
def admits (x : Timed) : Duty.Event → Bool
  | .pass nanos => nanos == stroke && x.duty.loop.turn?.isNone
  | _ => true

/-- What is noted of an event that leaves the loop as it is in `d`. A sending that hands nothing
over has ended as soon as it has begun. -/
def note (x : Timed) (e : Duty.Event) (d : Duty) : Timed where
  duty := d
  free := match e with
    | .turn => if x.next?.isSome && d.loop.underway?.isNone then x.duty.loop.now else x.free
    | .answer _ => x.duty.loop.now
    | _ => x.free
  sendings := match e with
    | .turn => x.sendings ++ x.next?.toList
    | _ => x.sendings

/-- One event; none when it cannot happen now. -/
def step? (x : Timed) (e : Duty.Event) : Option Timed :=
  if x.admits e then (x.duty.step? e).map (x.note e) else none

/-- Events one after the other. -/
def run? (x : Timed) (es : List Duty.Event) : Option Timed := es.foldlM step? x

/-- All that an event can do. -/
inductive Stepped (x : Timed) : Timed → Prop
  /-- The clock strikes while the loop has nothing to do. -/
  | struck (hidle : x.duty.loop.turn? = none) :
      Stepped x { x with duty.loop := x.duty.loop.advance stroke }
  /-- A sending that is due begins. -/
  | began (hphase : x.duty.loop.phase = .waiting) (hc : x.duty.loop.cancelled = false)
      (hdue : x.duty.loop.deadline ≤ x.duty.loop.now) : Stepped x x.launch
  /-- A sending ends. -/
  | ended {batch : Pending} (hb : x.duty.loop.underway? = some batch)
      (outcome : Except SyncError Sync.Response) :
      Stepped x
        { x with
          duty.loop := x.duty.loop.answer outcome
          duty.log := x.duty.log ++ [.finish outcome]
          free := x.duty.loop.now }
  /-- Anything else: a change comes in at most, and the loop may end. -/
  | other {d : Duty} (hnow : d.loop.now = x.duty.loop.now)
      (hdeadline : d.loop.deadline = x.duty.loop.deadline)
      (hphase : d.loop.phase = .waiting → x.duty.loop.phase = .waiting)
      (hflight : d.loop.underway? = x.duty.loop.underway?) (c? : Option Change)
      (hlog : d.log = x.duty.log ++ (c?.map .record).toList)
      (hread : d.read ≠ x.duty.read → x.duty.loop.now < x.duty.loop.deadline) :
      Stepped x { x with duty := d }

variable {b : Buffer} {q : Intake} {start : Nat} {es : List Duty.Event} {e : Duty.Event}
  {x y : Timed}

theorem next?_of_due (hphase : x.duty.loop.phase = .waiting) (hc : x.duty.loop.cancelled = false)
    (hdue : x.duty.loop.deadline ≤ x.duty.loop.now) : x.next? = some x.present := by
  unfold next?
  rw [FlushLoop.deed?_of_due hphase hc hdue]

theorem exists_of_step? (hs : x.step? e = some y) :
    x.admits e = true ∧ ∃ d, x.duty.step? e = some d ∧ y = x.note e d := by
  unfold step? at hs
  split at hs
  · rename_i hadmits
    obtain ⟨d, hd, rfl⟩ := Option.map_eq_some_iff.mp hs
    exact ⟨hadmits, d, hd, rfl⟩
  · cases hs

/-- What happens by the clock happens to the loop. -/
theorem duty_of_step? (hs : x.step? e = some y) : x.duty.step? e = some y.duty := by
  obtain ⟨-, d, hd, rfl⟩ := exists_of_step? hs
  exact hd

/-- The turn of a loop for which a sending is due begins it. -/
theorem step?_turn_of_due (hphase : x.duty.loop.phase = .waiting)
    (hc : x.duty.loop.cancelled = false) (hdue : x.duty.loop.deadline ≤ x.duty.loop.now) :
    x.step? .turn = some x.launch := by
  have hd : x.duty.step? .turn =
      some { x.duty with loop := x.duty.loop.tick, log := x.duty.log ++ [.start] } := by
    simp only [Duty.step?, FlushLoop.turn?_of_due hphase hc hdue,
      FlushLoop.deed?_of_due hphase hc hdue]
    simp [Outflow.recorded]
  have hadmits : x.admits .turn = true := rfl
  unfold step?
  rw [hd, if_pos hadmits, Option.map_some]
  unfold note
  rw [next?_of_due hphase hc hdue]
  rfl

/-- A loop that waits can end. -/
theorem stepped_ended (hphase : x.duty.loop.phase = .waiting) :
    x.Stepped { x with duty.loop.phase := .ended } := by
  have hflight : x.duty.loop.underway? = none := by
    unfold FlushLoop.underway?
    rw [hphase]
  refine .other rfl rfl (fun h => ?_) hflight.symm none (List.append_nil _).symm
    fun h => absurd rfl h
  cases h

theorem stepped_turn (hs : x.step? .turn = some y) : x.Stepped y := by
  obtain ⟨-, d, hd, rfl⟩ := exists_of_step? hs
  obtain ⟨l, hl, rfl⟩ := Option.map_eq_some_iff.mp hd
  obtain ⟨hphase, hturned⟩ := FlushLoop.turned_of_turn? hl
  unfold note next?
  generalize hdeed : x.duty.loop.deed? = deed at hturned
  cases hturned with
  | began hdue =>
    have hc : x.duty.loop.cancelled = false := by
      refine eq_false_of_ne_true fun hc => ?_
      rw [FlushLoop.deed?_of_cancelled hc] at hdeed
      cases hdeed
    simp only [Option.isSome_some, Bool.true_and, Option.toList_some, Outflow.recorded,
      List.filterMap_cons, List.filterMap_nil, List.append_nil]
    exact .began hphase hc hdue
  | stopped =>
    simp only [Option.isSome_none, Bool.false_and, Option.toList_none, Outflow.recorded,
      List.filterMap_nil, List.append_nil]
    exact stepped_ended hphase
  | closed =>
    simp only [Option.isSome_none, Bool.false_and, Option.toList_none, Outflow.recorded,
      List.filterMap_nil, List.append_nil]
    exact stepped_ended hphase
  | @read c cs hdue =>
    simp only [Option.isSome_none, Bool.false_and, Option.toList_none, List.append_nil]
    exact .other rfl rfl (fun _ => hphase) rfl (some c) rfl fun _ => hdue

/-- Nothing else can happen. -/
theorem stepped (hs : x.step? e = some y) : x.Stepped y := by
  cases e with
  | turn => exact stepped_turn hs
  | pass nanos =>
    obtain ⟨hadmits, d, hd, rfl⟩ := exists_of_step? hs
    cases hd
    obtain ⟨hstroke, hidle⟩ := Bool.and_eq_true_iff.mp hadmits
    rw [beq_iff_eq] at hstroke
    subst hstroke
    exact .struck (Option.isNone_iff_eq_none.mp hidle)
  | answer outcome =>
    obtain ⟨-, d, hd, rfl⟩ := exists_of_step? hs
    obtain ⟨batch, hb, rfl⟩ := Option.map_eq_some_iff.mp hd
    exact .ended hb outcome
  | aside c =>
    obtain ⟨-, d, hd, rfl⟩ := exists_of_step? hs
    cases hd
    exact .other rfl rfl id rfl (some c) rfl fun h => absurd rfl h
  | arrive c =>
    obtain ⟨-, d, hd, rfl⟩ := exists_of_step? hs
    dsimp only [Duty.step?] at hd
    split at hd
    · cases hd
    · obtain ⟨q, hq, rfl⟩ := Option.map_eq_some_iff.mp hd
      exact .other rfl rfl id rfl none (List.append_nil _).symm fun h => absurd rfl h
  | close =>
    obtain ⟨-, d, hd, rfl⟩ := exists_of_step? hs
    cases hd
    exact .other rfl rfl id rfl none (List.append_nil _).symm fun h => absurd rfl h
  | cancel =>
    obtain ⟨-, d, hd, rfl⟩ := exists_of_step? hs
    cases hd
    exact .other rfl rfl id rfl none (List.append_nil _).symm fun h => absurd rfl h

/-! ## By the clock -/

/-- The clock shows the time at some stroke, if it showed `start` at the beginning. -/
def Shows (start t : Nat) : Prop := ∃ k, t = start + k * stroke

end Timed

namespace Sending

open FlushLoop (nextDeadline slack)
open Timed (Shows stroke)

/-- The sending began at the first stroke of the clock when it was due and the loop was free. If
windows go by strokes, that is just when it was due and the loop was free. -/
structure OnTime (start window : Nat) (s : Sending) : Prop where
  shown : Shows start s.begun
  due : s.due ≤ s.begun
  free : s.free ≤ s.begun
  first : s.begun < max s.due s.free + stroke
  exact : stroke ∣ window → s.begun = max s.due s.free

/-- Another sending comes next. -/
structure Before (window : Nat) (s t : Sending) : Prop where
  /-- It is due a window after the first one was, or, if that was much too late, after it began. -/
  due : t.due = nextDeadline window s.due s.begun
  /-- The loop is free for it after the first one has begun. -/
  free : s.begun ≤ t.free
  /-- They are a window apart, but for a little. -/
  apart : s.begun + window ≤ t.begun + slack

/-- The sending takes along what it has to. -/
structure Complete (b : Buffer) (s : Sending) : Prop where
  /-- That is just what waits. -/
  waiting : ((Ledger.takeover (.new b)).after s.log).Holds .waiting s.batch
  /-- Of the changes that came into the buffer since the sending before, each one waits, or has
  given way to a newer one, or came in behind a delete or without id. -/
  recent : ∀ before c since, s.log = before ++ .record c :: since → .start ∉ since →
    ∃ f, ((Ledger.takeover (.new b)).after s.log).lines[((Ledger.takeover (.new b)).after
        before).lines.length]? = some ⟨c, f⟩ ∧
      ((f = .waiting ∧ s.batch[c.id]? = some c) ∨ f = .superseded ∨ f = .ignored ∨
        (f = .dropped ∧ c.id = ""))

end Sending

namespace Timed

open FlushLoop (nextDeadline slack)

/-- What is true of the times. -/
structure OnTime (window start : Nat) (x : Timed) : Prop where
  clock : Shows start x.duty.loop.now
  paced : x.duty.loop.buffer.window.nanos = window
  free : x.free ≤ x.duty.loop.now
  freed : Shows start x.free
  deadline : x.duty.loop.deadline = x.sendings.getLast?.elim (start + window) fun s =>
    nextDeadline window s.due s.begun
  shown : stroke ∣ window → Shows start x.duty.loop.deadline
  prompt : x.duty.loop.phase = .waiting →
    x.duty.loop.now < max x.duty.loop.deadline x.free + stroke
  since : x.duty.loop.phase = .waiting → ∀ s ∈ x.sendings.getLast?, s.begun ≤ x.free
  unsent : x.sendings = [] → x.free = start ∧ x.duty.loop.underway? = none
  first : ∀ s ∈ x.sendings.head?, s.due = start + window ∧ s.free = start
  past : ∀ s ∈ x.sendings, s.begun ≤ x.duty.loop.now
  punctual : ∀ s ∈ x.sendings, s.OnTime start window
  rhythm : x.sendings.IsChain (Sending.Before window)

variable {b : Buffer} {q : Intake} {window start t : Nat} {es : List Duty.Event} {e : Duty.Event}
  {x y : Timed}

theorem Shows.refl (start : Nat) : Shows start start := ⟨0, by omega⟩

theorem Shows.add (h : Shows start t) {n : Nat} (hn : stroke ∣ n) : Shows start (t + n) := by
  obtain ⟨k, hk⟩ := h
  obtain ⟨m, hm⟩ := hn
  refine ⟨k + m, ?_⟩
  rw [hk, hm, Nat.add_mul, Nat.mul_comm stroke m, Nat.add_assoc]

theorem onTime_opening (b : Buffer) (q : Intake) (start : Nat) :
    (opening b q start).OnTime b.window.nanos start where
  clock := .refl start
  paced := rfl
  free := Nat.le_refl start
  freed := .refl start
  deadline := rfl
  shown := fun hwindow => (Shows.refl start).add hwindow
  prompt := fun _ => by
    show start < max (start + b.window.nanos) start + 1000000
    omega
  since := fun _ s hs => nomatch hs
  unsent := fun _ => ⟨rfl, rfl⟩
  first := fun s hs => nomatch hs
  past := fun s hs => nomatch hs
  punctual := fun s hs => nomatch hs
  rhythm := .nil

theorem OnTime.struck (h : x.OnTime window start) (hidle : x.duty.loop.turn? = none) :
    ({ x with duty.loop := x.duty.loop.advance stroke } : Timed).OnTime window start := by
  have hfree := h.free
  refine
    { h with
      clock := h.clock.add (Nat.dvd_refl stroke)
      free := ?_
      prompt := fun hphase => ?_
      past := fun s hs => ?_ }
  · show x.free ≤ x.duty.loop.now + stroke
    omega
  · -- the loop would have begun a sending that was due before
    have hearly : x.duty.loop.now < x.duty.loop.deadline :=
      FlushLoop.lt_deadline_of_idle hphase hidle
    show x.duty.loop.now + stroke < max x.duty.loop.deadline x.free + stroke
    omega
  · have hpast := h.past s hs
    show s.begun ≤ x.duty.loop.now + stroke
    omega

theorem OnTime.present (h : x.OnTime window start) (hphase : x.duty.loop.phase = .waiting)
    (hdue : x.duty.loop.deadline ≤ x.duty.loop.now) : x.present.OnTime start window where
  shown := h.clock
  due := hdue
  free := h.free
  first := h.prompt hphase
  exact := fun hwindow => by
    -- all these times are shown by the clock, so that less than a stroke between them is nothing
    obtain ⟨k, hk⟩ := h.clock
    obtain ⟨l, hl⟩ := h.shown hwindow
    obtain ⟨m, hm⟩ := h.freed
    have hprompt := h.prompt hphase
    have hfree := h.free
    show x.duty.loop.now = max x.duty.loop.deadline x.free
    unfold stroke at hk hl hm hprompt
    omega

theorem launch_now (hphase : x.duty.loop.phase = .waiting) :
    x.launch.duty.loop.now = x.duty.loop.now := by
  show x.duty.loop.tick.now = _
  rw [FlushLoop.tick_eq hphase]

theorem launch_deadline (hphase : x.duty.loop.phase = .waiting) :
    x.launch.duty.loop.deadline =
      nextDeadline x.duty.loop.buffer.window.nanos x.duty.loop.deadline x.duty.loop.now := by
  show x.duty.loop.tick.deadline = _
  rw [FlushLoop.tick_eq hphase]

theorem launch_window (hphase : x.duty.loop.phase = .waiting) :
    x.launch.duty.loop.buffer.window = x.duty.loop.buffer.window := by
  show x.duty.loop.tick.buffer.window = _
  rw [FlushLoop.tick_eq hphase]

theorem launch_free (x : Timed) :
    x.launch.free = x.duty.loop.now ∨ x.launch.free = x.free := by
  unfold launch
  dsimp only
  split
  · exact .inl rfl
  · exact .inr rfl

/-- A sending that leaves the loop waiting has ended. -/
theorem launch_free_of_waiting (hwaiting : x.launch.duty.loop.phase = .waiting) :
    x.launch.free = x.duty.loop.now := by
  have hnone : x.duty.loop.tick.underway? = none := by
    unfold FlushLoop.underway?
    rw [show x.duty.loop.tick.phase = .waiting from hwaiting]
  unfold launch
  dsimp only
  rw [hnone]
  rfl

theorem mem_launch_sendings {s : Sending} :
    s ∈ x.launch.sendings ↔ s ∈ x.sendings ∨ s = x.present := by
  show s ∈ x.sendings ++ [x.present] ↔ _
  simp

theorem getLast?_launch_sendings (x : Timed) : x.launch.sendings.getLast? = some x.present := by
  show (x.sendings ++ [x.present]).getLast? = _
  simp

/-- The sending that begins comes after the last one. -/
theorem OnTime.before_present (h : x.OnTime window start) (hphase : x.duty.loop.phase = .waiting)
    (hdue : x.duty.loop.deadline ≤ x.duty.loop.now) {s : Sending}
    (hs : x.sendings.getLast? = some s) : s.Before window x.present := by
  have hnext : x.present.due = nextDeadline window s.due s.begun := by
    have hdeadline := h.deadline
    rw [hs] at hdeadline
    exact hdeadline
  refine ⟨hnext, h.since hphase s hs, ?_⟩
  have hbegun : x.present.due ≤ x.present.begun := hdue
  have hless := FlushLoop.le_nextDeadline window s.due s.begun
  omega

/-- The first sending of all is due when the loop has waited for a window. -/
theorem OnTime.first_present (h : x.OnTime window start) (hnone : x.sendings = []) :
    x.present.due = start + window ∧ x.present.free = start := by
  have hdeadline := h.deadline
  rw [hnone] at hdeadline
  exact ⟨hdeadline, (h.unsent hnone).1⟩

theorem OnTime.launch (h : x.OnTime window start) (hphase : x.duty.loop.phase = .waiting)
    (hdue : x.duty.loop.deadline ≤ x.duty.loop.now) : x.launch.OnTime window start where
  clock := by
    rw [launch_now hphase]
    exact h.clock
  paced := by
    rw [launch_window hphase]
    exact h.paced
  free := by
    have hle := h.free
    have hfree := x.launch_free
    rw [launch_now hphase]
    omega
  freed := by
    rcases x.launch_free with hfree | hfree
    · rw [hfree]
      exact h.clock
    · rw [hfree]
      exact h.freed
  deadline := by
    rw [launch_deadline hphase, h.paced, getLast?_launch_sendings]
    rfl
  shown := fun hwindow => by
    rw [launch_deadline hphase, h.paced]
    unfold nextDeadline
    split
    · exact (h.shown hwindow).add hwindow
    · exact h.clock.add hwindow
  prompt := fun hwaiting => by
    rw [launch_free_of_waiting hwaiting, launch_now hphase]
    unfold stroke
    omega
  since := fun hwaiting s hs => by
    rw [getLast?_launch_sendings] at hs
    cases hs
    rw [launch_free_of_waiting hwaiting]
    exact Nat.le_refl _
  unsent := fun hnone => by
    have hlast := x.getLast?_launch_sendings
    rw [hnone] at hlast
    cases hlast
  first := fun s hs => by
    have hs : s ∈ (x.sendings ++ [x.present]).head? := hs
    cases hsendings : x.sendings with
    | nil =>
      rw [hsendings] at hs
      cases hs
      exact h.first_present hsendings
    | cons s' ss =>
      rw [hsendings] at hs
      refine h.first s ?_
      rw [hsendings]
      exact hs
  past := fun s hs => by
    rw [launch_now hphase]
    rcases mem_launch_sendings.mp hs with hs | rfl
    · exact h.past s hs
    · exact Nat.le_refl _
  punctual := fun s hs => by
    rcases mem_launch_sendings.mp hs with hs | rfl
    · exact h.punctual s hs
    · exact h.present hphase hdue
  rhythm := List.isChain_append.mpr ⟨h.rhythm, .singleton _, fun s hs t ht => by
    cases ht
    exact h.before_present hphase hdue hs⟩

theorem OnTime.ended (h : x.OnTime window start) {batch : Pending}
    (hb : x.duty.loop.underway? = some batch) (outcome : Except SyncError Sync.Response) :
    ({ x with
        duty.loop := x.duty.loop.answer outcome
        duty.log := x.duty.log ++ [.finish outcome]
        free := x.duty.loop.now } : Timed).OnTime window start := by
  rw [FlushLoop.answer_eq hb]
  exact
    { h with
      paced := by
        show (x.duty.loop.buffer.endFlush batch outcome).2.window.nanos = window
        rw [Buffer.endFlush_window]
        exact h.paced
      free := Nat.le_refl _
      freed := h.clock
      prompt := fun _ => by
        show x.duty.loop.now < max x.duty.loop.deadline x.duty.loop.now + 1000000
        omega
      since := fun _ s hs => h.past s (List.mem_of_mem_getLast? hs)
      unsent := fun hnone => by
        rw [(h.unsent hnone).2] at hb
        cases hb }

theorem OnTime.step (h : x.OnTime window start) (hs : x.step? e = some y) :
    y.OnTime window start := by
  have hpaced := Duty.step?_window (duty_of_step? hs)
  cases stepped hs with
  | struck hidle => exact h.struck hidle
  | began hphase _ hdue => exact h.launch hphase hdue
  | ended hb outcome => exact h.ended hb outcome
  | @other d hnow hdeadline hphase hflight =>
    exact
      { h with
        clock := by rw [hnow]; exact h.clock
        paced := by rw [hpaced]; exact h.paced
        free := by rw [hnow]; exact h.free
        deadline := by rw [hdeadline]; exact h.deadline
        shown := by rw [hdeadline]; exact h.shown
        prompt := fun hwaiting => by
          rw [hnow, hdeadline]
          exact h.prompt (hphase hwaiting)
        since := fun hwaiting => h.since (hphase hwaiting)
        unsent := fun hnone => by rw [hflight]; exact h.unsent hnone
        past := by rw [hnow]; exact h.past }

/-! ## By the log -/

/-- Without a new sending the log has the same sendings in the same places. -/
theorem exists_start_append {log tail before : List Outflow.Event} (htail : .start ∉ tail) :
    (∃ after, log ++ tail = before ++ .start :: after) ↔
      ∃ after, log = before ++ .start :: after := by
  constructor
  · rintro ⟨after, h⟩
    rcases List.append_eq_append_iff.mp h with ⟨as, -, has⟩ | ⟨bs, hbs, hrest⟩
    · exact absurd (by rw [has]; simp) htail
    · cases bs with
      | nil => exact absurd (by rw [List.nil_append] at hrest; rw [← hrest]; simp) htail
      | cons b bs =>
        rw [List.cons_append] at hrest
        cases hrest
        exact ⟨bs, hbs⟩
  · rintro ⟨after, rfl⟩
    exact ⟨after ++ tail, by simp⟩

theorem exists_start_concat {log before : List Outflow.Event} :
    (∃ after, log ++ [.start] = before ++ .start :: after) ↔
      (∃ after, log = before ++ .start :: after) ∨ log = before := by
  constructor
  · rintro ⟨after, h⟩
    rcases List.append_eq_append_iff.mp h with ⟨as, has, hone⟩ | ⟨bs, hbs, hrest⟩
    · cases as with
      | nil => exact .inr (by rw [has, List.append_nil])
      | cons a as => simp at hone
    · cases bs with
      | nil => exact .inr (by rw [hbs, List.append_nil])
      | cons b bs =>
        rw [List.cons_append] at hrest
        cases hrest
        exact .inl ⟨bs, hbs⟩
  · rintro (⟨after, rfl⟩ | rfl)
    · exact ⟨after ++ [.start], by simp⟩
    · exact ⟨[], rfl⟩

/-- What is true of the log. -/
structure Booked (b : Buffer) (x : Timed) : Prop where
  kept : x.duty.Kept b
  logged : ∀ before, (∃ after, x.duty.log = before ++ .start :: after) ↔
    ∃ s ∈ x.sendings, s.log = before
  complete : ∀ s ∈ x.sendings, s.Complete b

theorem Booked.present (h : x.Booked b) (hb : b.pending.Keyed) : x.present.Complete b := by
  obtain ⟨sent, hdescribes⟩ := h.kept.describes hb
  have hholds : ((Ledger.takeover (.new b)).after x.duty.log).Holds .waiting
      x.duty.loop.buffer.pending := hdescribes.waiting
  refine ⟨hholds, fun before c since hlog hsince => ?_⟩
  have hlog : x.duty.log = before ++ .record c :: since := hlog
  obtain ⟨f, hf, hfate⟩ :=
    ((Ledger.takeover (.new b)).after before).exists_recorded_after c hsince
  have hafter : (Ledger.takeover (.new b)).after x.duty.log =
      ((Ledger.takeover (.new b)).after before).after (.record c :: since) := by
    unfold Ledger.after
    rw [hlog, List.foldl_append]
  rw [← hafter] at hf
  refine ⟨f, hf, ?_⟩
  rcases hfate with rfl | hother
  · exact .inl ⟨rfl, (hholds c.id c).mpr ⟨List.mem_of_getElem? hf, rfl⟩⟩
  · exact .inr hother

theorem booked_opening (b : Buffer) (q : Intake) (start : Nat) : (opening b q start).Booked b where
  kept := Duty.kept_opening b q start
  logged := fun before => by
    constructor
    · rintro ⟨after, h⟩
      have hnil : ([] : List Outflow.Event) = before ++ .start :: after := h
      simp at hnil
    · rintro ⟨s, hs, -⟩
      cases hs
  complete := fun s hs => nomatch hs

theorem Booked.step (h : x.Booked b) (hb : b.pending.Keyed) (hs : x.step? e = some y) :
    y.Booked b := by
  have hkept := h.kept.step (duty_of_step? hs)
  cases stepped hs with
  | struck => exact ⟨hkept, h.logged, h.complete⟩
  | began =>
    refine ⟨hkept, fun before => ?_, fun s hs => ?_⟩
    · show (∃ after, x.duty.log ++ [.start] = before ++ .start :: after) ↔
        ∃ s ∈ x.sendings ++ [x.present], s.log = before
      rw [exists_start_concat, h.logged before]
      simp [or_and_right, exists_or, Timed.present]
    · rcases List.mem_append.mp hs with hs | hs
      · exact h.complete s hs
      · cases List.mem_singleton.mp hs
        exact h.present hb
  | ended hb outcome =>
    refine ⟨hkept, fun before => ?_, h.complete⟩
    exact (exists_start_append (by simp)).trans (h.logged before)
  | @other d _ _ _ _ c? hlog =>
    refine ⟨hkept, fun before => ?_, h.complete⟩
    rw [hlog]
    refine (exists_start_append ?_).trans (h.logged before)
    cases c? <;> simp

/-! ## The whole of it -/

/-- The sendings are punctual, whatever comes in and however long the answers take. -/
structure Punctual (b : Buffer) (start : Nat) (x : Timed) : Prop where
  /-- The first sending is due after one window, and begins no earlier. -/
  first : ∀ s ∈ x.sendings.head?, s.due = start + b.window.nanos ∧ s.free = start ∧
    start + b.window.nanos ≤ s.begun
  /-- Each of the others is due in the rhythm of the one before it, and about a window apart. -/
  rhythm : x.sendings.IsChain (Sending.Before b.window.nanos)
  /-- Each begins as soon as it is due and the loop is free. -/
  punctual : ∀ s ∈ x.sendings, s.OnTime start b.window.nanos
  /-- The next one has not been missed. -/
  awaited : x.duty.loop.phase = .waiting →
    x.duty.loop.now < max x.duty.loop.deadline x.free + stroke
  /-- It is due in the rhythm of the last one. -/
  next : x.duty.loop.deadline = x.sendings.getLast?.elim (start + b.window.nanos) fun s =>
    nextDeadline b.window.nanos s.due s.begun
  /-- When it is due, and the loop is not told to stop, it is all that the loop does, before the
  clock goes on: it leaves the queue as it is, and takes out all that waits in the buffer. -/
  begins : x.duty.loop.phase = .waiting → x.duty.loop.cancelled = false →
    x.duty.loop.deadline ≤ x.duty.loop.now →
      x.step? .turn = some x.launch ∧ (∀ nanos, x.step? (.pass nanos) = none) ∧
      x.launch.sendings = x.sendings ++ [x.present] ∧ x.launch.duty.read = x.duty.read ∧
      x.launch.duty.loop.intake = x.duty.loop.intake ∧
      x.launch.duty.loop.phase =
        if x.present.batch = ∅ ∨ x.duty.loop.buffer.attached = false then .waiting
        else .sending x.present.batch
  /-- No change is read from the queue when a sending is due. -/
  reads : ∀ e y, x.step? e = some y → y.duty.read ≠ x.duty.read →
    x.duty.loop.now < x.duty.loop.deadline
  /-- These are all the sendings that have begun. -/
  logged : ∀ before, (∃ after, x.duty.log = before ++ .start :: after) ↔
    ∃ s ∈ x.sendings, s.log = before
  /-- Each takes along all that came into the buffer before it and has not given way. -/
  complete : ∀ s ∈ x.sendings, s.Complete b

/-- By a clock that goes on only while it waits, a flush loop is punctual. -/
theorem punctual_of_run (hb : b.pending.Keyed) (hrun : (opening b q start).run? es = some x) :
    x.Punctual b start := by
  have htimes : x.OnTime b.window.nanos start :=
    Runs.induction (motive := fun _ x => x.OnTime b.window.nanos start) (onTime_opening b q start)
      (fun _ _ _ _ _ hm hs => hm.step hs) hrun
  have hbooks : x.Booked b :=
    Runs.induction (motive := fun _ x => x.Booked b) (booked_opening b q start)
      (fun _ _ _ _ _ hm hs => hm.step hb hs) hrun
  refine
    { first := fun s hs => ?_
      rhythm := htimes.rhythm
      punctual := htimes.punctual
      awaited := htimes.prompt
      next := htimes.deadline
      begins := fun hphase hc hdue => ?_
      reads := fun e y hs hread => ?_
      logged := hbooks.logged
      complete := hbooks.complete }
  · obtain ⟨hdue, hfree⟩ := htimes.first s hs
    have hbegun := (htimes.punctual s (List.mem_of_mem_head? hs)).due
    exact ⟨hdue, hfree, by omega⟩
  · have hturn := FlushLoop.turn?_of_due hphase hc hdue
    refine ⟨step?_turn_of_due hphase hc hdue, fun nanos => ?_, rfl, rfl, ?_, ?_⟩
    · unfold step? admits
      rw [hturn]
      simp
    · show x.duty.loop.tick.intake = x.duty.loop.intake
      rw [FlushLoop.tick_eq hphase]
    · show x.duty.loop.tick.phase = _
      rw [FlushLoop.tick_eq hphase]
      rfl
  · cases stepped hs with
    | other _ _ _ _ _ _ hearly => exact hearly hread
    | _ => exact absurd rfl hread

/-! ### A slow answer -/

/-- A snapshot comes in, and another one while it is sent. The answer comes seven milliseconds after
the next sending was due. -/
def slowRun : List Duty.Event :=
  let pod (name : String) (seconds : Nat) : Change :=
    .upsert ⟨name, "default", "Pod", "v1", ∅, ∅, ⟨seconds, 0⟩⟩
  let wait (strokes : Nat) : List Duty.Event := List.replicate strokes (.pass stroke)
  [.arrive (pod "web" 0), .turn] ++ wait 10 ++ [.turn, .arrive (pod "db" 1)] ++ wait 17 ++
    [.answer (.error (.http "refused")), .turn, .answer (.error (.http "refused")), .turn]

/-- A buffer that is sent every ten milliseconds. -/
def briskBuffer : Buffer := .new (.ofMillis 10) true

theorem isSome_slowRun : ((opening briskBuffer (.new 4) 0).run? slowRun).isSome = true := by
  decide +kernel

/-- The second sending begins too late, and without the second snapshot, which is read only then. -/
theorem punctual_of_slowRun : ∃ x, briskBuffer.pending.Keyed ∧
    (opening briskBuffer (.new 4) 0).run? slowRun = some x ∧ x.Punctual briskBuffer 0 ∧
    x.sendings.map (fun s => (s.due, s.free, s.begun, s.batch.size)) =
      [(10000000, 0, 10000000, 1), (20000000, 27000000, 27000000, 1)] ∧
    x.duty.loop.deadline = 37000000 ∧ x.duty.loop.buffer.pending.size = 2 := by
  have hkeyed : briskBuffer.pending.Keyed := Pending.keyed_empty
  have hrun := (Option.some_get isSome_slowRun).symm
  exact ⟨_, hkeyed, hrun, punctual_of_run hkeyed hrun, by decide +kernel, by decide +kernel,
    by decide +kernel⟩

end Timed

end ClusterFeed
