import ClusterFeed.Buffer.Loop
import ClusterFeed.Proofs.Buffer.Takeover

/-!
# The flush loop at its buffer

What the flush loop does to the buffer, turn by turn: it takes changes in, in the order of the
queue, and begins sendings. A turn that ends the loop does nothing to the buffer; unless the loop is
told to stop, it ends only when the queue is closed and has been read to its end.

A loop whose queue is closed has only so much left to do and ends by itself.
-/

namespace ClusterFeed

open Sync (SyncError)

namespace Buffer

@[simp] theorem record_window (b : Buffer) (c : Change) : (b.record c).window = b.window := by
  unfold record noteDropped
  split <;> rfl

@[simp] theorem endFlush_window (b : Buffer) (batch : Pending)
    (outcome : Except SyncError Sync.Response) :
    (b.endFlush batch outcome).2.window = b.window := by
  unfold endFlush markFlushed
  cases outcome with
  | ok r => rfl
  | error e => cases hp : e.partial? <;> simp [hp]

theorem startFlush_snd (b : Buffer) : b.startFlush.2 = { b with pending := ∅ } := by
  unfold startFlush
  split
  · rfl
  · split <;> rfl

/-- A sending that ended well ended with an answer that takes the whole batch. -/
theorem endFlush_ok {b : Buffer} {batch : Pending} {outcome : Except SyncError Sync.Response}
    {report : FlushReport} (h : (b.endFlush batch outcome).1 = .ok report) :
    (b.endFlush batch outcome).2.pending = b.pending := by
  unfold endFlush at *
  cases outcome with
  | ok r => rfl
  | error e =>
    cases hp : e.partial? with
    | none => simp [hp] at h
    | some r => simp [hp] at h

theorem effectiveWindow_pos (d : Time.Duration) : 0 < (effectiveWindow d).nanos := by
  unfold effectiveWindow
  split
  · decide
  · rename_i hd
    have hmax : 0 < maxWindow.nanos := by decide
    exact Nat.lt_min.mpr ⟨Nat.pos_of_ne_zero hd, hmax⟩

end Buffer

/-- What is left to do when nothing else is: the answer to the batch, and the end of the loop. -/
def LoopPhase.chores : LoopPhase → Nat
  | .waiting => 1
  | .sending _ => 2
  | .ended => 0

theorem LoopPhase.chores_le (p : LoopPhase) : p.chores ≤ 2 := by
  cases p with
  | waiting => decide
  | sending batch => exact Nat.le_refl 2
  | ended => decide

namespace FlushLoop

/-- The batch that is on its way. -/
def underway? (l : FlushLoop) : Option Pending :=
  match l.phase with
  | .sending batch => some batch
  | _ => none

/-- The buffer and its batch, and the batches that were handed over so far. -/
def outflow (l : FlushLoop) (sent : List Pending) : Outflow := ⟨l.buffer, l.underway?, sent⟩

/-- What the next turn does to the buffer, if it does anything. -/
def deed? (l : FlushLoop) : Option Outflow.Event :=
  match l.phase with
  | .waiting =>
    if l.cancelled then none
    else if l.deadline ≤ l.now then some .start
    else l.intake.items.head?.map .record
  | _ => none

/-- What a turn can be, with what it does to the buffer. -/
inductive Turned (l : FlushLoop) : FlushLoop → Option Outflow.Event → Prop
  /-- The loop has been stopped. -/
  | stopped (h : l.cancelled = true) : Turned l { l with phase := .ended } none
  /-- A sending is due. -/
  | began (h : l.deadline ≤ l.now) : Turned l l.tick (some .start)
  /-- A change is read. -/
  | read {c : Change} {cs : List Change} (hdue : l.now < l.deadline)
      (h : l.intake.items = c :: cs) :
      Turned l { l with buffer := l.buffer.record c, intake := { l.intake with items := cs } }
        (some (.record c))
  /-- The queue is closed and has been read to its end. -/
  | closed (h : l.intake.isOpen = false) (hitems : l.intake.items = []) :
      Turned l { l with phase := .ended } none

/-- What is true of a loop as it runs, and has not been stopped. -/
structure Sound (l : FlushLoop) : Prop where
  uncancelled : l.cancelled = false
  window : 0 < l.buffer.window.nanos
  pending : l.buffer.pending.Keyed
  underway : ∀ batch, l.underway? = some batch → batch.Keyed
  ended : l.isEnded = true → l.intake.isOpen = false ∧ l.intake.items = []

/-- How many sendings are due at most until the next one is in the future. -/
def dues (l : FlushLoop) : Nat := if l.deadline ≤ l.now then l.now - l.deadline + 1 else 0

/-- How many turns and answers there are at most until the loop has to wait for something to come
in. -/
def chores (l : FlushLoop) : Nat := 2 * l.dues + l.intake.items.length + l.phase.chores

variable {l l' : FlushLoop} {d : Option Outflow.Event} {batch : Pending}

theorem isEnded_iff : l.isEnded = true ↔ l.phase = .ended := by
  unfold isEnded
  cases l.phase <;> simp

theorem underway?_eq_some_iff : l.underway? = some batch ↔ l.phase = .sending batch := by
  unfold underway?
  cases l.phase <;> simp

theorem underway?_of_ended (h : l.isEnded = true) : l.underway? = none := by
  rw [underway?, isEnded_iff.mp h]

/-! ## Turns -/

/-- There is no other turn, and a loop takes one only while it waits. -/
theorem turned_of_turn? (h : l.turn? = some l') : l.phase = .waiting ∧ l.Turned l' l.deed? := by
  obtain ⟨buffer, intake, cancelled, now, deadline, phase⟩ := l
  cases phase with
  | ended => cases h
  | sending batch => cases h
  | waiting =>
    refine ⟨rfl, ?_⟩
    dsimp only [turn?, deed?] at h ⊢
    by_cases hc : cancelled = true
    · rw [if_pos hc] at h ⊢
      cases h
      exact .stopped hc
    · rw [if_neg hc] at h ⊢
      by_cases hdue : deadline ≤ now
      · rw [if_pos hdue] at h ⊢
        cases h
        exact .began hdue
      · rw [if_neg hdue] at h ⊢
        obtain ⟨capacity, items, isOpen⟩ := intake
        cases items with
        | cons c cs =>
          cases h
          exact .read (Nat.lt_of_not_le hdue) rfl
        | nil =>
          cases isOpen with
          | true => cases h
          | false =>
            cases h
            exact .closed rfl rfl

/-- A sending that is due begins with all that waits; it is on its way if there is something to send
and an index to send it to. -/
theorem tick_eq (h : l.phase = .waiting) : l.tick =
    { l with
      deadline := nextDeadline l.buffer.window.nanos l.deadline l.now
      buffer := { l.buffer with pending := ∅ }
      phase := if l.buffer.pending = ∅ ∨ l.buffer.attached = false then .waiting
        else .sending l.buffer.pending } := by
  unfold tick
  by_cases hp : l.buffer.pending = ∅
  · simp only [Buffer.startFlush_of_empty hp]
    simp [hp, h]
  · cases ha : l.buffer.attached with
    | false =>
      simp only [Buffer.startFlush_of_unattached hp ha]
      simp [h]
    | true =>
      simp only [Buffer.startFlush_of_attached hp ha]
      simp [hp]

/-- What a turn does to the buffer can happen to it. -/
theorem Turned.flows (h : l.Turned l' d) (hphase : l.phase = .waiting) (sent : List Pending) :
    ∃ sent', (l.outflow sent).run? d.toList = some (l'.outflow sent') := by
  have hnone : l.outflow sent = ⟨l.buffer, none, sent⟩ := by
    unfold outflow underway?
    rw [hphase]
  rw [hnone]
  cases h with
  | stopped => exact ⟨sent, rfl⟩
  | closed => exact ⟨sent, rfl⟩
  | read =>
    refine ⟨sent, ?_⟩
    unfold outflow underway?
    rw [hphase]
    rfl
  | began =>
    rw [tick_eq hphase]
    by_cases hp : l.buffer.pending = ∅
    · exact ⟨sent, by simp [Outflow.run?, Outflow.step?, outflow, underway?, hp,
        Buffer.startFlush_of_empty hp]⟩
    · cases ha : l.buffer.attached with
      | false =>
        exact ⟨sent, by simp [Outflow.run?, Outflow.step?, outflow, underway?,
          Buffer.startFlush_of_unattached hp ha]⟩
      | true =>
        exact ⟨sent ++ [l.buffer.pending], by simp [Outflow.run?, Outflow.step?, outflow, underway?,
          hp, Buffer.startFlush_of_attached hp ha]⟩

/-- What is read from the queue is what comes into the buffer. -/
theorem Turned.items (h : l.Turned l' d) (hphase : l.phase = .waiting) :
    l.intake.items = Outflow.recorded d.toList ++ l'.intake.items := by
  cases h with
  | stopped => rfl
  | closed => rfl
  | read _ hitems => exact hitems
  | began =>
    rw [tick_eq hphase]
    rfl

theorem answer_eq (h : l.underway? = some batch) (outcome : Except SyncError Sync.Response) :
    l.answer outcome =
      { l with buffer := (l.buffer.endFlush batch outcome).2, phase := .waiting } := by
  unfold answer
  rw [underway?_eq_some_iff.mp h]

/-- The answer to a batch ends its sending. -/
theorem answer_flows (h : l.underway? = some batch) (outcome : Except SyncError Sync.Response)
    (sent : List Pending) :
    (l.outflow sent).step? (.finish outcome) = some ((l.answer outcome).outflow sent) := by
  rw [answer_eq h]
  unfold outflow
  rw [h]
  rfl

/-- No turn attaches an index or removes one. -/
theorem Turned.steady (h : l.Turned l' d) (on : Bool) : .attach on ∉ d.toList := by
  cases h <;> simp

/-! ## What stays true -/

theorem sound_start (window : Time.Duration) (attached : Bool) (capacity now : Nat) :
    (start (.new window attached) (.new capacity) now).Sound := by
  refine ⟨rfl, Buffer.effectiveWindow_pos window, Pending.keyed_empty, fun batch h => ?_,
    fun h => ?_⟩
  · cases h
  · cases h

/-- A sound loop stays sound as time passes. -/
theorem Sound.withNow (h : l.Sound) (now : Nat) : ({ l with now } : FlushLoop).Sound :=
  ⟨h.uncancelled, h.window, h.pending, h.underway, h.ended⟩

theorem Sound.turn (h : l.Sound) (hl : l.turn? = some l') : l'.Sound := by
  obtain ⟨hphase, hturned⟩ := turned_of_turn? hl
  generalize l.deed? = d at hturned
  cases hturned with
  | stopped hc =>
    rw [h.uncancelled] at hc
    cases hc
  | closed hopen hitems =>
    exact ⟨h.uncancelled, h.window, h.pending, fun batch hb => (nomatch hb),
      fun _ => ⟨hopen, hitems⟩⟩
  | read hdue hitems =>
    refine ⟨h.uncancelled, ?_, h.pending.record _, h.underway, fun hended => ?_⟩
    · rw [Buffer.record_window]
      exact h.window
    · exact absurd (hphase.symm.trans (isEnded_iff.mp hended)) nofun
  | began hdue =>
    rw [tick_eq hphase]
    refine ⟨h.uncancelled, h.window, Pending.keyed_empty, fun batch hb => ?_, fun hended => ?_⟩
    · have hsending := underway?_eq_some_iff.mp hb
      dsimp only at hsending
      split at hsending
      · cases hsending
      · cases hsending
        exact h.pending
    · have hphase' := isEnded_iff.mp hended
      dsimp only at hphase'
      split at hphase' <;> cases hphase'

theorem Sound.answer (h : l.Sound) (outcome : Except SyncError Sync.Response) :
    (l.answer outcome).Sound := by
  cases hb : l.underway? with
  | none =>
    have hsame : l.answer outcome = l := by
      unfold FlushLoop.answer
      split
      · rename_i hphase
        rw [underway?_eq_some_iff.mpr hphase] at hb
        cases hb
      · rfl
    rwa [hsame]
  | some batch =>
    rw [answer_eq hb]
    refine ⟨h.uncancelled, ?_, h.pending.endFlush (h.underway batch hb) outcome,
      fun batch hb => (nomatch hb), fun hended => (nomatch hended)⟩
    rw [Buffer.endFlush_window]
    exact h.window

/-- What turns and answers keep true is true when the loop has settled. -/
theorem settle_keeps {σ : Type} {motive : FlushLoop → Prop}
    (hturn : ∀ l l', motive l → l.turn? = some l' → motive l')
    (hanswer : ∀ l batch outcome, motive l → l.underway? = some batch → motive (l.answer outcome))
    (send : Sync.Request → σ → Except SyncError Sync.Response × σ) (fuel : Nat) (l : FlushLoop)
    (s : σ) (h : motive l) : motive (settle send [] fuel l s).1 := by
  induction fuel generalizing l s with
  | zero => exact h
  | succ fuel ih =>
    unfold settle
    split
    · rename_i batch hphase
      have hb := underway?_eq_some_iff.mpr hphase
      exact ih _ _ (hanswer l batch _ h hb)
    · split
      · rename_i l' hl'
        exact ih l' s (hturn l l' h hl')
      · exact h

theorem settle_sound {σ : Type} (send : Sync.Request → σ → Except SyncError Sync.Response × σ)
    (fuel : Nat) (h : l.Sound) (s : σ) : (settle send [] fuel l s).1.Sound :=
  settle_keeps (fun _ _ hm hl => hm.turn hl) (fun _ _ outcome hm _ => hm.answer outcome) send fuel l
    s h

/-! ## A loop that comes to its end -/

/-- No turn closes the queue or opens it. -/
theorem isOpen_of_turn? (hl : l.turn? = some l') : l'.intake.isOpen = l.intake.isOpen := by
  obtain ⟨hphase, hturned⟩ := turned_of_turn? hl
  generalize l.deed? = d at hturned
  cases hturned with
  | began => rw [tick_eq hphase]
  | _ => rfl

/-- No turn changes the time between two sendings. -/
theorem window_of_turn? (hl : l.turn? = some l') : l'.buffer.window = l.buffer.window := by
  obtain ⟨hphase, hturned⟩ := turned_of_turn? hl
  generalize l.deed? = d at hturned
  cases hturned with
  | began => rw [tick_eq hphase]
  | read => exact Buffer.record_window _ _
  | _ => rfl

theorem isOpen_settle {σ : Type} (send : Sync.Request → σ → Except SyncError Sync.Response × σ)
    (fuel : Nat) (l : FlushLoop) (s : σ) :
    (settle send [] fuel l s).1.intake.isOpen = l.intake.isOpen := by
  refine settle_keeps (motive := fun l' => l'.intake.isOpen = l.intake.isOpen)
    (fun _ _ hm hl => (isOpen_of_turn? hl).trans hm) (fun _ _ outcome hm hb => ?_) send fuel l s rfl
  rw [answer_eq hb]
  exact hm

/-- With a closed queue the loop always has something to do, until it has ended. -/
theorem isEnded_of_turn?_eq_none (hl : l.turn? = none) (hclosed : l.intake.isOpen = false)
    (hnone : ∀ batch, l.phase ≠ .sending batch) : l.isEnded = true := by
  unfold turn? at hl
  split at hl
  · exact isEnded_iff.mpr ‹_›
  · exact absurd ‹_› (hnone _)
  · split at hl
    · cases hl
    · split at hl
      · cases hl
      · split at hl
        · cases hl
        · simp [hclosed] at hl

theorem chores_le_turnsLeft (l : FlushLoop) : l.chores ≤ l.turnsLeft := by
  have hphase := LoopPhase.chores_le l.phase
  unfold chores dues turnsLeft
  split <;> omega

/-- A sending that begins moves the next one. -/
theorem dues_tick (hphase : l.phase = .waiting) (hwindow : 0 < l.buffer.window.nanos)
    (hdue : l.deadline ≤ l.now) : l.tick.dues < l.dues := by
  have hnext : l.deadline < nextDeadline l.buffer.window.nanos l.deadline l.now := by
    unfold nextDeadline
    split <;> omega
  rw [tick_eq hphase]
  unfold dues
  dsimp only
  rw [if_pos hdue]
  split <;> omega

/-- After a turn less is left to do. -/
theorem Sound.chores_turn (h : l.Sound) (hl : l.turn? = some l') : l'.chores < l.chores := by
  obtain ⟨hphase, hturned⟩ := turned_of_turn? hl
  generalize l.deed? = d at hturned
  have hone : l.phase.chores = 1 := by rw [hphase, LoopPhase.chores]
  unfold chores
  cases hturned with
  | stopped =>
    show 2 * l.dues + l.intake.items.length + 0 < _
    omega
  | closed =>
    show 2 * l.dues + l.intake.items.length + 0 < _
    omega
  | @read c cs hdue hitems =>
    rw [hitems, List.length_cons]
    show 2 * l.dues + cs.length + l.phase.chores < _
    omega
  | began hdue =>
    have hless := dues_tick hphase h.window hdue
    have hitems : l.tick.intake = l.intake := by rw [tick_eq hphase]
    have htwo := LoopPhase.chores_le l.tick.phase
    rw [hitems]
    omega

theorem chores_answer (h : l.underway? = some batch) (outcome : Except SyncError Sync.Response) :
    (l.answer outcome).chores < l.chores := by
  have htwo : l.phase.chores = 2 := by rw [underway?_eq_some_iff.mp h, LoopPhase.chores]
  rw [answer_eq h]
  unfold chores
  show 2 * l.dues + l.intake.items.length + 1 < _
  omega

/-- A loop whose queue is closed ends, and has read all changes before it does. -/
theorem Sound.settle_ended {σ : Type}
    (send : Sync.Request → σ → Except SyncError Sync.Response × σ) {fuel : Nat} {l : FlushLoop}
    (h : l.Sound) (hclosed : l.intake.isOpen = false) (hfuel : l.chores ≤ fuel) (s : σ) :
    (settle send [] fuel l s).1.isEnded = true := by
  -- each turn and each answer is paid for with fuel, and leaves less to do
  induction fuel generalizing l s with
  | zero =>
    cases hphase : l.phase with
    | waiting => simp [chores, hphase, LoopPhase.chores] at hfuel
    | sending batch => simp [chores, hphase, LoopPhase.chores] at hfuel
    | ended => exact isEnded_iff.mpr hphase
  | succ fuel ih =>
    unfold settle
    split
    · rename_i batch hphase
      have hb := underway?_eq_some_iff.mpr hphase
      have hless := chores_answer hb (send (Buffer.batchRequest batch) s).1
      refine ih (h.answer _) ?_ (by omega) _
      rw [answer_eq hb]
      exact hclosed
    · rename_i hphase
      split
      · rename_i l' hl'
        have hless := h.chores_turn hl'
        exact ih (h.turn hl') (isOpen_of_turn? hl' ▸ hclosed) (by omega) s
      · rename_i hnone
        exact isEnded_of_turn?_eq_none hnone hclosed hphase

end FlushLoop

end ClusterFeed
