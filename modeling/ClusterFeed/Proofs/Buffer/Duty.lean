import ClusterFeed.Proofs.Buffer.Reading
import ClusterFeed.Proofs.Buffer.Sequence

/-!
# The flush loop on duty

All that can happen to a flush loop from its beginning to its end: changes come into its queue, the
queue is closed, the loop is told to stop, time passes, and the index answers the batch that is on
its way, each of them at any time. Changes may also come into the buffer directly, past the queue.

Whatever the order is, the loop reads what came into its queue, in that order, and leaves out
nothing before the place up to which it has read. When it is told to stop it does nothing more but
wait for the answer to the batch that is on its way. It does not send anything at its end.

The loop is `run` of the buffer.
-/

namespace ClusterFeed

open Sync (SyncError)

/-! ## What waits since the last sending -/

namespace Outflow

/-- A change that comes in, or an index that is attached or removed: no sending begins or ends. -/
def Event.isCalm : Event → Bool
  | .record _ => true
  | .attach _ => true
  | .start => false
  | .finish _ => false

/-- What waits after a run and what is on its way, from what happened since the last sending
began. -/
inductive Remains (b : Buffer) (es : List Event) (o : Outflow) : Prop
  /-- No sending has begun: the changes came upon those that waited at the beginning. -/
  | unsent (hes : ∀ e ∈ es, e.isCalm) (hunder : o.underway = none)
      (hpending : ∀ id, o.buffer.pending[id]? =
        Change.settle b.pending[id]? (Change.withId id (recorded es)))
  /-- The last sending took out all that waited and is still on its way, or has handed nothing
  over. -/
  | emptied {before since : List Event} {m : Outflow} (hes : es = before ++ .start :: since)
      (hm : (Outflow.new b).run? before = some m) (hsince : ∀ e ∈ since, e.isCalm)
      (hunder : ∀ batch, o.underway = some batch → batch = m.buffer.pending)
      (hpending : ∀ id, o.buffer.pending[id]? =
        Change.settle none (Change.withId id (recorded since)))
  /-- The last sending has ended, and what was not taken has been put back. -/
  | putBack {before during since : List Event} {m : Outflow}
      {outcome : Except SyncError Sync.Response}
      (hes : es = before ++ .start :: (during ++ .finish outcome :: since))
      (hm : (Outflow.new b).run? before = some m) (hduring : ∀ e ∈ during, e.isCalm)
      (hsince : ∀ e ∈ since, e.isCalm) (hunder : o.underway = none)
      (hpending : ∀ id, o.buffer.pending[id]? =
        Change.settle
          ((Change.settle none (Change.withId id (recorded during))).or
            (if Buffer.wasTaken outcome id then none else m.buffer.pending[id]?))
          (Change.withId id (recorded since)))

variable {b : Buffer} {o o' : Outflow} {es : List Event} {e : Event}

/-- An event that neither begins nor ends a sending only lets a change come in. -/
theorem step?_calm (he : e.isCalm) (h : o.step? e = some o') :
    o'.underway = o.underway ∧ ∀ id, o'.buffer.pending[id]? =
      Change.settle o.buffer.pending[id]? (Change.withId id (recorded [e])) := by
  cases e with
  | start => cases he
  | finish outcome => cases he
  | attach on =>
    cases h
    exact ⟨rfl, fun id => rfl⟩
  | record c =>
    cases h
    exact ⟨rfl, fun id => o.buffer.getElem?_recordAll [c] id⟩

theorem calm_concat (hes : ∀ e ∈ es, e.isCalm) (he : e.isCalm) : ∀ e' ∈ es ++ [e], e'.isCalm := by
  intro e' he'
  rcases List.mem_append.mp he' with he' | he'
  · exact hes e' he'
  · rw [List.mem_singleton.mp he']
    exact he

/-- The change that comes in is the next one that settles. -/
theorem settle_concat {old : Option Change} {id : String} {waiting : Option Change}
    (h : waiting = Change.settle old (Change.withId id (recorded es))) :
    Change.settle waiting (Change.withId id (recorded [e])) =
      Change.settle old (Change.withId id (recorded (es ++ [e]))) := by
  rw [h, recorded_append]
  unfold Change.withId Change.settle
  rw [List.filter_append, List.foldl_append]

theorem Remains.calm (h : Remains b es o) (he : e.isCalm) (hs : o.step? e = some o') :
    Remains b (es ++ [e]) o' := by
  obtain ⟨hsame, hcome⟩ := step?_calm he hs
  cases h with
  | unsent hes hunder hpending =>
    exact .unsent (calm_concat hes he) (hsame.trans hunder)
      fun id => (hcome id).trans (settle_concat (hpending id))
  | @emptied before since m hes hm hsince hunder hpending =>
    have hes' : es ++ [e] = before ++ .start :: (since ++ [e]) := by rw [hes]; simp
    refine .emptied hes' hm (calm_concat hsince he) ?_
      fun id => (hcome id).trans (settle_concat (hpending id))
    rw [hsame]
    exact hunder
  | @putBack before during since m outcome hes hm hduring hsince hunder hpending =>
    have hes' : es ++ [e] =
        before ++ .start :: (during ++ .finish outcome :: (since ++ [e])) := by rw [hes]; simp
    exact .putBack hes' hm hduring (calm_concat hsince he) (hsame.trans hunder)
      fun id => (hcome id).trans (settle_concat (hpending id))

theorem Remains.start (hrun : (Outflow.new b).run? es = some o) (hs : o.step? .start = some o') :
    Remains b (es ++ [.start]) o' := by
  obtain ⟨-, hb, hcase⟩ := step?_start hs
  have hes : es ++ [.start] = es ++ .start :: [] := rfl
  refine .emptied hes hrun (fun _ hn => (nomatch hn)) (fun batch hu => ?_) (fun id => ?_)
  · rcases hcase with ⟨hnone, -⟩ | ⟨hsome, -⟩
    · rw [hnone] at hu
      cases hu
    · rw [hsome] at hu
      cases hu
      rfl
  · rw [hb]
    exact Std.ExtTreeMap.getElem?_empty

theorem Remains.finish (h : Remains b es o) {outcome : Except SyncError Sync.Response}
    (hs : o.step? (.finish outcome) = some o') : Remains b (es ++ [.finish outcome]) o' := by
  obtain ⟨batch, hu, hb, hu', -⟩ := step?_finish hs
  cases h with
  | unsent _ hunder =>
    rw [hunder] at hu
    cases hu
  | putBack _ _ _ _ hunder =>
    rw [hunder] at hu
    cases hu
  | @emptied before since m hes hm hsince hunder hpending =>
    have hes' : es ++ [.finish outcome] = before ++ .start :: (since ++ .finish outcome :: []) := by
      rw [hes]; simp
    refine .putBack hes' hm hsince (fun _ hn => (nomatch hn)) hu' fun id => ?_
    rw [hb, Buffer.getElem?_endFlush, hpending id, hunder batch hu]
    rfl

/-- After every run what waits is what the changes since the last sending give, together with what
this sending has put back. -/
theorem remains_of_run (h : (Outflow.new b).run? es = some o) : Remains b es o := by
  refine run?_induction (motive := fun es o => Remains b es o)
    (.unsent (fun _ hn => (nomatch hn)) rfl fun _ => rfl) (fun es m e m' hm hr hs => ?_) h
  cases e with
  | record c => exact hr.calm rfl hs
  | attach on => exact hr.calm rfl hs
  | start => exact .start hm hs
  | finish outcome => exact hr.finish hs

end Outflow

/-! ## The loop and what happens to it -/

theorem Intake.eq_of_offer? {q q' : Intake} {c : Change} (h : q.offer? c = some q') :
    q' = { q with items := q.items ++ [c] } := by
  unfold offer? at h
  split at h
  · cases h
    rfl
  · cases h

/-- A turn that ends the loop does nothing else, and has one of two reasons. -/
theorem FlushLoop.Turned.ending {l l' : FlushLoop} {d : Option Outflow.Event} (h : l.Turned l' d)
    (hphase : l.phase = .waiting) (hended : l'.isEnded = true) :
    l' = { l with phase := .ended } ∧ d = none ∧
      (l.cancelled = true ∨ (l.intake.isOpen = false ∧ l.intake.items = [])) := by
  cases h with
  | stopped hc => exact ⟨rfl, rfl, .inl hc⟩
  | closed hopen hitems => exact ⟨rfl, rfl, .inr ⟨hopen, hitems⟩⟩
  | read =>
    rw [isEnded, hphase] at hended
    cases hended
  | began =>
    rw [isEnded_iff, tick_eq hphase] at hended
    dsimp only at hended
    split at hended <;> cases hended

namespace FlushLoop

variable {l : FlushLoop}

/-- A loop that has been told to stop does nothing more. -/
theorem turn?_of_cancelled (hc : l.cancelled = true) (hphase : l.phase = .waiting) :
    l.turn? = some { l with phase := .ended } := by
  unfold turn?
  rw [hphase]
  exact if_pos hc

/-- The loop has no reason to end. -/
structure Open (l : FlushLoop) : Prop where
  queue : l.intake.isOpen = true
  uncancelled : l.cancelled = false
  running : l.isEnded = false

theorem Open.turn {l' : FlushLoop} (h : l.Open) (hl : l.turn? = some l') : l'.Open := by
  obtain ⟨hphase, hturned⟩ := turned_of_turn? hl
  have hrunning : l'.isEnded = false := by
    refine eq_false_of_ne_true fun hended => ?_
    rcases (hturned.ending hphase hended).2.2 with hc | ⟨hclosed, -⟩
    · rw [h.uncancelled] at hc
      cases hc
    · rw [h.queue] at hclosed
      cases hclosed
  refine ⟨(isOpen_of_turn? hl).trans h.queue, ?_, hrunning⟩
  generalize l.deed? = d at hturned
  cases hturned with
  | began =>
    rw [tick_eq hphase]
    exact h.uncancelled
  | _ => exact h.uncancelled

theorem deed?_of_cancelled (hc : l.cancelled = true) : l.deed? = none := by
  unfold deed?
  split
  · exact if_pos hc
  · rfl

end FlushLoop

namespace Ledger

/-- What is on its way comes to one of three fates, or waits anew, unless a sending begins. -/
theorem exists_placed_after {l : Ledger} {es : List Outflow.Event} {n : Nat} {c : Change}
    (hn : l.lines[n]? = some ⟨c, .underway⟩) (hes : .start ∉ es) :
    ∃ f, (l.after es).lines[n]? = some ⟨c, f⟩ ∧
      (f = .underway ∨ f = .accepted ∨ f = .superseded ∨ f = .waiting) := by
  induction es using List.reverseRecOn with
  | nil => exact ⟨_, hn, .inl rfl⟩
  | append_singleton es e ih =>
    obtain ⟨f, hf, hplaced⟩ := ih fun hs => hes (List.mem_append_left _ hs)
    have hlt : n < (l.after es).lines.length := (List.getElem?_eq_some_iff.mp hf).1
    have he : e ≠ .start := fun he => hes (by simp [he])
    rw [after_concat]
    obtain ⟨g, hg⟩ := getElem?_changes.mp
      (getElem?_changes_step e (getElem?_changes.mpr ⟨f, hf⟩))
    refine ⟨g, hg, ?_⟩
    cases turn_of_step hg with
    | kept hold =>
      rw [hf] at hold
      cases hold
      exact hplaced
    | dropped hlen => omega
    | ignored hlen => omega
    | entered hlen => omega
    | handedOver => exact absurd rfl he
    | discarded => exact absurd rfl he
    | superseded => exact .inr (.inr (.inl rfl))
    | taken => exact .inr (.inl rfl)
    | outdated => exact .inr (.inr (.inl rfl))
    | putBack => exact .inr (.inr (.inr rfl))

end Ledger

/-- A flush loop, with what came into its queue and what has been done to its buffer. -/
structure Duty where
  /-- The loop. -/
  loop : FlushLoop
  /-- The changes that were in the queue at the beginning, and those that came into it since. -/
  arrived : List Change
  /-- The changes that the loop has read. -/
  read : List Change
  /-- What has been done to the buffer. -/
  log : List Outflow.Event

namespace Duty

/-- What happens to a flush loop. -/
inductive Event where
  /-- A change comes into the queue. -/
  | arrive (c : Change)
  /-- The queue is closed. -/
  | close
  /-- The loop is told to stop. -/
  | cancel
  /-- Time passes. -/
  | pass (nanos : Nat)
  /-- A change comes into the buffer past the queue. -/
  | aside (c : Change)
  /-- The loop takes a turn. -/
  | turn
  /-- The index answers the batch that is on its way. -/
  | answer (outcome : Except SyncError Sync.Response)

/-- A loop at its beginning. -/
def opening (b : Buffer) (q : Intake) (now : Nat) : Duty := ⟨.start b q now, q.items, [], []⟩

/-- One event; none when it cannot happen now. Nothing comes into a queue that is full or closed, or
that nobody reads any more. -/
def step? (x : Duty) : Event → Option Duty
  | .arrive c => if x.loop.isEnded then none else
    (x.loop.intake.offer? c).map fun q =>
      { x with loop.intake := q, arrived := x.arrived ++ [c] }
  | .close => some { x with loop.intake := x.loop.intake.close }
  | .cancel => some { x with loop.cancelled := true }
  | .pass nanos => some { x with loop := x.loop.advance nanos }
  | .aside c => some
    { x with loop.buffer := x.loop.buffer.record c, log := x.log ++ [.record c] }
  | .turn => x.loop.turn?.map fun l =>
    { x with
      loop := l
      read := x.read ++ Outflow.recorded x.loop.deed?.toList
      log := x.log ++ x.loop.deed?.toList }
  | .answer outcome => x.loop.underway?.map fun _ =>
    { x with loop := x.loop.answer outcome, log := x.log ++ [.finish outcome] }

/-- Events one after the other. -/
def run? (x : Duty) (es : List Event) : Option Duty := es.foldlM step? x

/-- What became of the changes that waited at the beginning and of all that came into the buffer
since. -/
def ledger (b : Buffer) (x : Duty) : Ledger := (Ledger.takeover (.new b)).after x.log

/-- What is true of a loop all the time. -/
structure Kept (b : Buffer) (x : Duty) : Prop where
  flow : ∃ sent, (Outflow.new b).run? x.log = some (x.loop.outflow sent)
  arrived : x.arrived = x.read ++ x.loop.intake.items
  recorded : x.read.Sublist (Outflow.recorded x.log)
  ended : x.loop.isEnded = true →
    x.loop.cancelled = true ∨ (x.loop.intake.isOpen = false ∧ x.loop.intake.items = [])

/-- A batch that was on its way when the loop was told to stop has been answered, and nothing was
sent after it. -/
structure Landed (b : Buffer) (x : Duty) (batch : Pending) (y : Duty) : Prop where
  /-- The answer came, and changes came in past the queue before and after it, nothing else. -/
  answered : ∃ (during : List Change) (outcome : Except SyncError Sync.Response)
    (since : List Change),
    y.log = x.log ++ (during.map .record ++ .finish outcome :: since.map .record)
  /-- Each change of the batch was taken by the index, has given way to a newer change of its id, or
  waits again. -/
  fates : ∀ (id : String) (c : Change), batch[id]? = some c → ∃ (n : Nat) (f : Fate),
    (x.ledger b).lines[n]? = some ⟨c, .underway⟩ ∧ (y.ledger b).lines[n]? = some ⟨c, f⟩ ∧
    (f = .accepted ∨ f = .superseded ∨ (f = .waiting ∧ y.loop.buffer.pending[id]? = some c))

/-- The loop does what it is there for. -/
structure Faithful (b : Buffer) (es : List Event) (x : Duty) : Prop where
  /-- The log is what was done to the buffer, and tells what waits in it. -/
  flow : ∃ sent, (Outflow.new b).run? x.log = some (x.loop.outflow sent) ∧
    Outflow.Remains b x.log (x.loop.outflow sent)
  /-- The loop has read the changes that came into the queue, in their order, up to those that are
  still in it. -/
  arrived : x.arrived = x.read ++ x.loop.intake.items
  /-- What it has read has come into the buffer, and nothing else has but what came in past the
  queue. -/
  recorded : x.read.Sublist (Outflow.recorded x.log) ∧
    ((∀ c, .aside c ∉ es) → Outflow.recorded x.log = x.read)
  /-- It has ended because it was told to, or because there is nothing left to read and never will
  be. -/
  ended : x.loop.isEnded = true →
    x.loop.cancelled = true ∨ (x.loop.intake.isOpen = false ∧ x.loop.intake.items = [])
  /-- If it was not told to, it has read everything. -/
  whole : x.loop.isEnded = true → x.loop.cancelled = false → x.read = x.arrived
  /-- Once it has been told to stop its next turn ends it, and does nothing else. -/
  stopped : x.loop.cancelled = true → x.loop.phase = .waiting →
    x.step? .turn = some { x with loop.phase := .ended }
  /-- The turn that ends it sends nothing and reads nothing. -/
  quiet : ∀ y, x.step? .turn = some y → y.loop.isEnded = true →
    y = { x with loop.phase := .ended }
  /-- When it has ended, changes may still come in past the queue, and nothing else happens to the
  buffer. -/
  finished : x.loop.isEnded = true → ∀ es' y, x.run? es' = some y →
    y.loop.isEnded = true ∧ y.read = x.read ∧
      ∃ since : List Change, y.log = x.log ++ since.map .record
  /-- Nothing but its answer ends a sending, whether or not the loop has been told to stop. -/
  awaited : ∀ batch, x.loop.underway? = some batch → ∀ e y, x.step? e = some y →
    (∃ outcome, e = .answer outcome) ∨ y.loop.underway? = some batch
  /-- So the sending that is on its way when the loop is told to stop comes to its end. -/
  landed : x.loop.cancelled = true → ∀ batch, x.loop.underway? = some batch →
    ∀ es' y, x.run? es' = some y → y.loop.isEnded = true → x.Landed b batch y

variable {b : Buffer} {q : Intake} {now : Nat} {es : List Event} {e : Event} {x y : Duty}

/-! ## What holds all the time -/

theorem kept_opening (b : Buffer) (q : Intake) (now : Nat) : (opening b q now).Kept b :=
  ⟨⟨[], rfl⟩, rfl, List.Sublist.refl _, fun h => (nomatch h)⟩

theorem Kept.turn (h : x.Kept b) {l : FlushLoop} (hl : x.loop.turn? = some l) :
    ({ x with
        loop := l
        read := x.read ++ Outflow.recorded x.loop.deed?.toList
        log := x.log ++ x.loop.deed?.toList } : Duty).Kept b := by
  obtain ⟨hphase, hturned⟩ := FlushLoop.turned_of_turn? hl
  obtain ⟨sent, hflow⟩ := h.flow
  refine ⟨?_, ?_, ?_, fun hended => ?_⟩
  -- what the turn did to the buffer is its deed, which is what the log gets
  · obtain ⟨sent', hsent'⟩ := hturned.flows hphase sent
    exact ⟨sent', Outflow.run?_append.mpr ⟨_, hflow, hsent'⟩⟩
  · show x.arrived = x.read ++ Outflow.recorded x.loop.deed?.toList ++ l.intake.items
    rw [h.arrived, hturned.items hphase, List.append_assoc]
  · rw [Outflow.recorded_append]
    exact h.recorded.append (List.Sublist.refl _)
  · obtain ⟨rfl, -, hwhy⟩ := hturned.ending hphase hended
    exact hwhy

theorem Kept.step (h : x.Kept b) (hs : x.step? e = some y) : y.Kept b := by
  obtain ⟨sent, hflow⟩ := h.flow
  cases e with
  | arrive c =>
    dsimp only [step?] at hs
    split at hs
    · cases hs
    · rename_i hrunning
      obtain ⟨q, hq, rfl⟩ := Option.map_eq_some_iff.mp hs
      refine ⟨h.flow, ?_, h.recorded, fun hended => absurd hended hrunning⟩
      show x.arrived ++ [c] = x.read ++ q.items
      rw [Intake.eq_of_offer? hq, h.arrived, List.append_assoc]
  | close =>
    cases hs
    exact ⟨h.flow, h.arrived, h.recorded,
      fun hended => (h.ended hended).imp_right fun hdone => ⟨rfl, hdone.2⟩⟩
  | cancel =>
    cases hs
    exact ⟨h.flow, h.arrived, h.recorded, fun _ => .inl rfl⟩
  | pass nanos =>
    cases hs
    exact ⟨h.flow, h.arrived, h.recorded, h.ended⟩
  | aside c =>
    cases hs
    refine ⟨⟨sent, Outflow.run?_concat.mpr ⟨_, hflow, rfl⟩⟩, h.arrived, ?_, h.ended⟩
    rw [Outflow.recorded_append]
    exact h.recorded.trans (List.sublist_append_left _ _)
  | turn =>
    obtain ⟨l, hl, rfl⟩ := Option.map_eq_some_iff.mp hs
    exact h.turn hl
  | answer outcome =>
    obtain ⟨batch, hb, rfl⟩ := Option.map_eq_some_iff.mp hs
    refine ⟨⟨sent, Outflow.run?_concat.mpr ⟨_, hflow, x.loop.answer_flows hb outcome sent⟩⟩,
      ?_, ?_, fun hended => ?_⟩
    · rw [FlushLoop.answer_eq hb]
      exact h.arrived
    · rw [Outflow.recorded_append]
      exact h.recorded.trans (List.sublist_append_left _ _)
    · rw [FlushLoop.answer_eq hb] at hended
      cases hended

theorem kept_of_run (hrun : (opening b q now).run? es = some x) : x.Kept b :=
  Runs.induction (motive := fun _ x => x.Kept b) (kept_opening b q now)
    (fun _ _ _ _ _ hm hs => hm.step hs) hrun

/-! ## What holds from a state on -/

/-- An ended loop stays ended, and does nothing. -/
theorem step?_ended (hended : x.loop.isEnded = true) (hs : x.step? e = some y) :
    y.loop.isEnded = true ∧ y.read = x.read ∧ ∃ cs : List Change,
      y.log = x.log ++ cs.map .record := by
  have hphase := FlushLoop.isEnded_iff.mp hended
  cases e with
  | arrive c =>
    dsimp only [step?] at hs
    rw [if_pos hended] at hs
    cases hs
  | turn =>
    obtain ⟨l, hl, rfl⟩ := Option.map_eq_some_iff.mp hs
    rw [(FlushLoop.turned_of_turn? hl).1] at hphase
    cases hphase
  | answer outcome =>
    obtain ⟨batch, hb, rfl⟩ := Option.map_eq_some_iff.mp hs
    rw [FlushLoop.underway?_of_ended hended] at hb
    cases hb
  | aside c =>
    cases hs
    exact ⟨hended, rfl, [c], rfl⟩
  | _ =>
    cases hs
    exact ⟨hended, rfl, [], (List.append_nil _).symm⟩

theorem ended_of_run (hended : x.loop.isEnded = true) (hrun : x.run? es = some y) :
    y.loop.isEnded = true ∧ y.read = x.read ∧ ∃ cs : List Change,
      y.log = x.log ++ cs.map .record := by
  refine Runs.induction (motive := fun _ y => y.loop.isEnded = true ∧ y.read = x.read ∧
    ∃ cs : List Change, y.log = x.log ++ cs.map .record)
    ⟨hended, rfl, [], (List.append_nil _).symm⟩ (fun _ m e m' _ hm hs => ?_) hrun
  obtain ⟨hended', hread, cs, hlog⟩ := hm
  obtain ⟨hended'', hread', cs', hlog'⟩ := step?_ended hended' hs
  refine ⟨hended'', hread'.trans hread, cs ++ cs', ?_⟩
  rw [hlog', hlog, List.map_append, List.append_assoc]

/-- Nothing that happens to a loop changes the time between two sendings. -/
theorem step?_window (hs : x.step? e = some y) :
    y.loop.buffer.window = x.loop.buffer.window := by
  cases e with
  | turn =>
    obtain ⟨l, hl, rfl⟩ := Option.map_eq_some_iff.mp hs
    exact FlushLoop.window_of_turn? hl
  | answer outcome =>
    obtain ⟨batch, hb, rfl⟩ := Option.map_eq_some_iff.mp hs
    rw [FlushLoop.answer_eq hb]
    exact Buffer.endFlush_window _ _ _
  | arrive c =>
    dsimp only [step?] at hs
    split at hs
    · cases hs
    · obtain ⟨q, hq, rfl⟩ := Option.map_eq_some_iff.mp hs
      rfl
  | aside c =>
    cases hs
    exact Buffer.record_window _ _
  | _ =>
    cases hs
    rfl

theorem window_of_run (hrun : x.run? es = some y) :
    y.loop.buffer.window = x.loop.buffer.window :=
  Runs.induction (motive := fun _ y => y.loop.buffer.window = x.loop.buffer.window) rfl
    (fun _ _ _ _ _ hm hs => (step?_window hs).trans hm) hrun

/-- Only its answer ends a sending. -/
theorem step?_underway {batch : Pending} (hb : x.loop.underway? = some batch)
    (hs : x.step? e = some y) :
    (∃ outcome, e = .answer outcome) ∨ y.loop.underway? = some batch := by
  cases e with
  | answer outcome => exact .inl ⟨outcome, rfl⟩
  | turn =>
    obtain ⟨l, hl, rfl⟩ := Option.map_eq_some_iff.mp hs
    rw [FlushLoop.underway?_eq_some_iff, (FlushLoop.turned_of_turn? hl).1] at hb
    cases hb
  | arrive c =>
    dsimp only [step?] at hs
    split at hs
    · cases hs
    · obtain ⟨q, hq, rfl⟩ := Option.map_eq_some_iff.mp hs
      exact .inr hb
  | _ =>
    cases hs
    exact .inr hb

/-- A loop that has been told to stop hears of its batch, and lets changes come in past the
queue. -/
theorem step?_cancelled (hc : x.loop.cancelled = true) (hs : x.step? e = some y) :
    y.loop.cancelled = true ∧
      ((y.loop.underway? = x.loop.underway? ∧ ∃ cs : List Change, y.log = x.log ++ cs.map .record) ∨
        (x.loop.underway?.isSome ∧ y.loop.underway? = none ∧
          ∃ outcome, y.log = x.log ++ [.finish outcome])) := by
  cases e with
  | answer outcome =>
    obtain ⟨batch, hb, rfl⟩ := Option.map_eq_some_iff.mp hs
    rw [FlushLoop.answer_eq hb, hb]
    exact ⟨hc, .inr ⟨rfl, rfl, outcome, rfl⟩⟩
  | turn =>
    obtain ⟨l, hl, rfl⟩ := Option.map_eq_some_iff.mp hs
    have hphase := (FlushLoop.turned_of_turn? hl).1
    rw [FlushLoop.turn?_of_cancelled hc hphase] at hl
    cases hl
    refine ⟨hc, .inl ⟨?_, [], ?_⟩⟩
    · unfold FlushLoop.underway?
      rw [hphase]
    · rw [FlushLoop.deed?_of_cancelled hc]
      rfl
  | aside c =>
    cases hs
    exact ⟨hc, .inl ⟨rfl, [c], rfl⟩⟩
  | arrive c =>
    dsimp only [step?] at hs
    split at hs
    · cases hs
    · obtain ⟨q, hq, rfl⟩ := Option.map_eq_some_iff.mp hs
      exact ⟨hc, .inl ⟨rfl, [], (List.append_nil _).symm⟩⟩
  | cancel =>
    cases hs
    exact ⟨rfl, .inl ⟨rfl, [], (List.append_nil _).symm⟩⟩
  | close =>
    cases hs
    exact ⟨hc, .inl ⟨rfl, [], (List.append_nil _).symm⟩⟩
  | pass nanos =>
    cases hs
    exact ⟨hc, .inl ⟨rfl, [], (List.append_nil _).symm⟩⟩

/-- After the loop has been told to stop, the batch that was on its way is still on its way, or has
been answered and no other has been sent. -/
theorem cancelled_of_run (hc : x.loop.cancelled = true) {batch : Pending}
    (hb : x.loop.underway? = some batch) (hrun : x.run? es = some y) :
    y.loop.cancelled = true ∧
      ((y.loop.underway? = some batch ∧ ∃ cs : List Change, y.log = x.log ++ cs.map .record) ∨
        (y.loop.underway? = none ∧ ∃ (during : List Change)
          (outcome : Except SyncError Sync.Response) (since : List Change),
          y.log = x.log ++ (during.map .record ++ .finish outcome :: since.map .record))) := by
  refine Runs.induction (motive := fun _ y => y.loop.cancelled = true ∧
      ((y.loop.underway? = some batch ∧ ∃ cs : List Change, y.log = x.log ++ cs.map .record) ∨
        (y.loop.underway? = none ∧ ∃ (during : List Change)
          (outcome : Except SyncError Sync.Response) (since : List Change),
          y.log = x.log ++ (during.map .record ++ .finish outcome :: since.map .record))))
    ⟨hc, .inl ⟨hb, [], (List.append_nil _).symm⟩⟩ (fun _ m e m' _ hm hs => ?_) hrun
  obtain ⟨hcm, hm⟩ := hm
  obtain ⟨hcm', hm'⟩ := step?_cancelled hcm hs
  refine ⟨hcm', ?_⟩
  -- before the answer everything that comes in is `during`, after it everything is `since`
  rcases hm with ⟨hflight, during, hlog⟩ | ⟨hnone, during, outcome, since, hlog⟩
  · rcases hm' with ⟨hsame, cs, hlog'⟩ | ⟨-, hnone, outcome, hlog'⟩
    · exact .inl ⟨hsame.trans hflight, during ++ cs, by simp [hlog', hlog]⟩
    · exact .inr ⟨hnone, during, outcome, [], by simp [hlog', hlog]⟩
  · rcases hm' with ⟨hsame, cs, hlog'⟩ | ⟨hsome, -⟩
    · exact .inr ⟨hsame.trans hnone, during, outcome, since ++ cs, by simp [hlog', hlog]⟩
    · rw [hnone] at hsome
      cases hsome

/-- As long as the queue is not closed and the loop is not told to stop it does not end. -/
theorem open_of_run (hx : x.loop.Open) (hclose : .close ∉ es) (hcancel : .cancel ∉ es)
    (hrun : x.run? es = some y) : y.loop.Open := by
  refine Runs.induction (motive := fun es y => .close ∉ es → .cancel ∉ es → y.loop.Open)
    (fun _ _ => hx) (fun es m e m' _ hm hs hclose hcancel => ?_) hrun hclose hcancel
  have hopen := hm (fun h => hclose (List.mem_append_left _ h))
    fun h => hcancel (List.mem_append_left _ h)
  cases e with
  | close => simp at hclose
  | cancel => simp at hcancel
  | turn =>
    obtain ⟨l, hl, rfl⟩ := Option.map_eq_some_iff.mp hs
    exact hopen.turn hl
  | answer outcome =>
    obtain ⟨batch, hb, rfl⟩ := Option.map_eq_some_iff.mp hs
    rw [FlushLoop.answer_eq hb]
    exact ⟨hopen.queue, hopen.uncancelled, rfl⟩
  | arrive c =>
    dsimp only [step?] at hs
    split at hs
    · cases hs
    · obtain ⟨q, hq, rfl⟩ := Option.map_eq_some_iff.mp hs
      rw [Intake.eq_of_offer? hq]
      exact ⟨hopen.queue, hopen.uncancelled, hopen.running⟩
  | _ =>
    cases hs
    exact ⟨hopen.queue, hopen.uncancelled, hopen.running⟩

/-! ## What becomes of the batch -/

theorem Kept.describes (h : x.Kept b) (hb : b.pending.Keyed) :
    ∃ sent, (x.ledger b).Describes (x.loop.outflow sent) := by
  obtain ⟨sent, hflow⟩ := h.flow
  have hopen : (Ledger.takeover (.new b)).Describes (.new b) :=
    Ledger.describes_takeover hb Pending.keyed_empty
  exact ⟨sent, hopen.run hflow⟩

theorem Kept.landed (h : x.Kept b) (hkeyed : b.pending.Keyed) (hc : x.loop.cancelled = true)
    {batch : Pending} (hb : x.loop.underway? = some batch) (hrun : x.run? es = some y)
    (hended : y.loop.isEnded = true) : x.Landed b batch y := by
  have hnone := FlushLoop.underway?_of_ended hended
  have hy : y.Kept b := Runs.induction (motive := fun _ y => y.Kept b) h
    (fun _ _ _ _ _ hm hs => hm.step hs) hrun
  obtain ⟨sent, hdescribes⟩ := h.describes hkeyed
  obtain ⟨sent', hdescribes'⟩ := hy.describes hkeyed
  rcases (cancelled_of_run hc hb hrun).2 with ⟨hflight, -⟩ | ⟨-, during, outcome, since, hlog⟩
  · rw [hnone] at hflight
    cases hflight
  · refine ⟨⟨during, outcome, since, hlog⟩, fun id c hid => ?_⟩
    have hline : ⟨c, .underway⟩ ∈ (x.ledger b).lines :=
      ((hdescribes.holds_batch hb id c).mp hid).1
    have hcid : c.id = id := ((hdescribes.holds_batch hb id c).mp hid).2
    obtain ⟨n, hn⟩ := List.mem_iff_getElem?.mp hline
    set news : List Outflow.Event := during.map .record ++ .finish outcome :: since.map .record
    have hledger : y.ledger b = (x.ledger b).after news := by
      unfold ledger Ledger.after
      rw [hlog, List.foldl_append]
    have hstart : .start ∉ news := by simp [news]
    obtain ⟨f, hf, hplaced⟩ := Ledger.exists_placed_after hn hstart
    rw [← hledger] at hf
    refine ⟨n, f, hn, hf, ?_⟩
    -- the ledger follows the line, the buffer at the end says which of its fates are left
    rcases hplaced with rfl | rfl | rfl | rfl
    · exact absurd (List.mem_of_getElem? hf) (hdescribes'.not_underway hnone c)
    · exact .inl rfl
    · exact .inr (.inl rfl)
    · exact .inr (.inr ⟨rfl, (hdescribes'.waiting id c).mpr ⟨List.mem_of_getElem? hf, hcid⟩⟩)

/-! ## The whole of it -/

/-- Without changes past the queue, what comes into the buffer is what the loop reads. -/
theorem recorded_of_run (hrun : (opening b q now).run? es = some x) (hes : ∀ c, .aside c ∉ es) :
    Outflow.recorded x.log = x.read := by
  refine Runs.induction (motive := fun es x => (∀ c, .aside c ∉ es) →
    Outflow.recorded x.log = x.read) (fun _ => rfl) (fun es m e m' _ hm hs hes => ?_) hrun hes
  have hbefore := hm fun c hc => hes c (List.mem_append_left _ hc)
  cases e with
  | turn =>
    obtain ⟨l, hl, rfl⟩ := Option.map_eq_some_iff.mp hs
    rw [Outflow.recorded_append, hbefore]
  | answer outcome =>
    obtain ⟨batch, hb, rfl⟩ := Option.map_eq_some_iff.mp hs
    rw [Outflow.recorded_append, hbefore]
    exact List.append_nil _
  | aside c => exact absurd (List.mem_append_right _ (List.mem_singleton_self _)) (hes c)
  | arrive c =>
    dsimp only [step?] at hs
    split at hs
    · cases hs
    · obtain ⟨q, hq, rfl⟩ := Option.map_eq_some_iff.mp hs
      exact hbefore
  | _ =>
    cases hs
    exact hbefore

/-- In whatever order all the things happen, the loop does what it is there for. -/
theorem faithful_of_run (hb : b.pending.Keyed) (hrun : (opening b q now).run? es = some x) :
    x.Faithful b es := by
  have h := kept_of_run hrun
  obtain ⟨sent, hflow⟩ := h.flow
  refine
    { flow := ⟨sent, hflow, Outflow.remains_of_run hflow⟩
      arrived := h.arrived
      recorded := ⟨h.recorded, recorded_of_run hrun⟩
      ended := h.ended
      whole := fun hended hc => ?_
      stopped := fun hc hphase => ?_
      quiet := fun y hy hended => ?_
      finished := fun hended es' y hy => ended_of_run hended hy
      awaited := fun batch hbatch e y hy => step?_underway hbatch hy
      landed := fun hc batch hbatch es' y hy hended => h.landed hb hc hbatch hy hended }
  · rcases h.ended hended with hcancelled | ⟨-, hitems⟩
    · rw [hc] at hcancelled
      cases hcancelled
    · rw [h.arrived, hitems, List.append_nil]
  · dsimp only [step?]
    rw [FlushLoop.turn?_of_cancelled hc hphase, FlushLoop.deed?_of_cancelled hc]
    simp [Outflow.recorded]
  · obtain ⟨l, hl, rfl⟩ := Option.map_eq_some_iff.mp hy
    obtain ⟨hphase, hturned⟩ := FlushLoop.turned_of_turn? hl
    obtain ⟨rfl, hnone, -⟩ := hturned.ending hphase hended
    rw [hnone]
    simp [Outflow.recorded]

/-! ## Duty by the rules -/

/-- What happens to a loop that is fed through its queue alone, with changes that have an id. -/
def Event.Regular : Event → Prop
  | .arrive c => c.Built
  | .aside _ => False
  | _ => True

/-- What happens to it as long as it is not told to stop. -/
def Event.Ordinary (e : Event) : Prop := e.Regular ∧ e ≠ .cancel

/-- A loop can come to another state in this way, whatever came before. -/
def Comes (l l' : FlushLoop) : Prop := ∀ x : Duty, x.loop = l →
  ∃ es y, (∀ e ∈ es, e.Ordinary) ∧ x.run? es = some y ∧ y.loop = l'

variable {l l' l'' : FlushLoop}

theorem Comes.refl (l : FlushLoop) : Comes l l :=
  fun x hx => ⟨[], x, fun _ he => (nomatch he), rfl, hx⟩

theorem Comes.trans (h : Comes l l') (h' : Comes l' l'') : Comes l l'' := by
  intro x hx
  obtain ⟨es, y, hes, hrun, hy⟩ := h x hx
  obtain ⟨es', z, hes', hrun', hz⟩ := h' y hy
  refine ⟨es ++ es', z, fun e he => ?_, Runs.append_eq_some_iff.mpr ⟨y, hrun, hrun'⟩, hz⟩
  exact (List.mem_append.mp he).elim (hes e) (hes' e)

theorem comes_of_step {e : Event} (he : e.Ordinary)
    (h : ∀ x : Duty, x.loop = l → ∃ y, x.step? e = some y ∧ y.loop = l') : Comes l l' := by
  intro x hx
  obtain ⟨y, hs, hy⟩ := h x hx
  have hrun : x.run? ([] ++ [e]) = some y := Runs.concat_eq_some_iff.mpr ⟨x, rfl, hs⟩
  refine ⟨[e], y, fun e' he' => ?_, hrun, hy⟩
  rwa [List.mem_singleton.mp he']

theorem comes_arrive {c : Change} {q : Intake} (hrunning : l.isEnded = false)
    (hq : l.intake.offer? c = some q) (hc : c.Built) : Comes l { l with intake := q } := by
  refine comes_of_step (e := .arrive c) ⟨hc, nofun⟩ fun x hx => ⟨{ x with
    loop := { l with intake := q }, arrived := x.arrived ++ [c] }, ?_, rfl⟩
  dsimp only [step?]
  rw [hx, hrunning, hq]
  rfl

theorem comes_close (l : FlushLoop) : Comes l { l with intake := l.intake.close } := by
  refine comes_of_step (e := .close) ⟨trivial, nofun⟩ fun x hx => ⟨_, rfl, ?_⟩
  rw [hx]

theorem comes_advance (l : FlushLoop) (nanos : Nat) : Comes l (l.advance nanos) := by
  refine comes_of_step (e := .pass nanos) ⟨trivial, nofun⟩ fun x hx => ⟨_, rfl, ?_⟩
  rw [hx]

theorem comes_turn (h : l.turn? = some l') : Comes l l' := by
  refine comes_of_step (e := .turn) ⟨trivial, nofun⟩ fun x hx => ?_
  subst hx
  dsimp only [step?]
  rw [h]
  exact ⟨_, rfl, rfl⟩

theorem comes_answer {batch : Pending} (h : l.underway? = some batch)
    (outcome : Except SyncError Sync.Response) : Comes l (l.answer outcome) := by
  refine comes_of_step (e := .answer outcome) ⟨trivial, nofun⟩ fun x hx => ?_
  subst hx
  dsimp only [step?]
  rw [h]
  exact ⟨_, rfl, rfl⟩

theorem comes_settle {σ : Type} (send : Sync.Request → σ → Except SyncError Sync.Response × σ)
    (fuel : Nat) (l : FlushLoop) (s : σ) : Comes l (l.settle send [] fuel s).1 :=
  FlushLoop.settle_keeps (motive := Comes l) (fun _ _ h hl => h.trans (comes_turn hl))
    (fun _ _ outcome h hb => h.trans (comes_answer hb outcome)) send fuel l s (.refl l)

/-! ### A loop that is told to stop while it sends -/

/-- A buffer in which a delete waits. -/
def usedBuffer : Buffer :=
  (Buffer.new (.ofSeconds 1) true).record (.delete ⟨"default", "v1", "Pod", "db"⟩)

/-- The loop reads a snapshot and is told to stop while it sends it and the delete. Of the two
changes in the queue then it reads none. -/
def stoppedRun : List Event :=
  let pod (name : String) (seconds : Nat) : Change :=
    .upsert ⟨name, "default", "Pod", "v1", ∅, ∅, ⟨seconds, 0⟩⟩
  [.arrive (pod "web" 0), .turn, .arrive (pod "web" 1), .pass 1000000000, .turn,
    .arrive (pod "cache" 2), .cancel]

/-- The delete is refused and waits again. The snapshot is refused too, and gives way to a newer
one. -/
def finishingRun : List Event :=
  [.aside (.upsert ⟨"web", "default", "Pod", "v1", ∅, ∅, ⟨3, 0⟩⟩), .close,
    .answer (.error (.http "refused")), .turn]

theorem isSome_stoppedRun : ((opening usedBuffer (.new 4) 0).run? stoppedRun).isSome = true := by
  decide +kernel

/-- The loop when it has been told to stop. -/
def stoppedDuty : Duty := ((opening usedBuffer (.new 4) 0).run? stoppedRun).get isSome_stoppedRun

theorem isSome_finishingRun : (stoppedDuty.run? finishingRun).isSome = true := by decide +kernel

theorem faithful_of_stoppedRun :
    usedBuffer.pending.Keyed ∧ (opening usedBuffer (.new 4) 0).run? stoppedRun = some stoppedDuty ∧
      stoppedDuty.Faithful usedBuffer stoppedRun ∧
      ∃ batch y, stoppedDuty.loop.underway? = some batch ∧
        stoppedDuty.run? finishingRun = some y ∧ stoppedDuty.Landed usedBuffer batch y := by
  have hkeyed : usedBuffer.pending.Keyed := Pending.keyed_empty.record _
  have hrun : (opening usedBuffer (.new 4) 0).run? stoppedRun = some stoppedDuty :=
    (Option.some_get isSome_stoppedRun).symm
  have hfaithful := faithful_of_run hkeyed hrun
  have hflight : stoppedDuty.loop.underway?.isSome = true := by decide +kernel
  have hended : ((stoppedDuty.run? finishingRun).get isSome_finishingRun).loop.isEnded = true := by
    decide +kernel
  have hfinish := (Option.some_get isSome_finishingRun).symm
  obtain ⟨batch, hbatch⟩ := Option.isSome_iff_exists.mp hflight
  exact ⟨hkeyed, hrun, hfaithful, batch, _, hbatch, hfinish,
    hfaithful.landed (by decide +kernel) batch hbatch _ _ hfinish hended⟩

end Duty

end ClusterFeed
