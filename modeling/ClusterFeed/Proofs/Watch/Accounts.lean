import ClusterFeed.Proofs.Watch.Inflow

/-!
# What becomes of reports

Informers report, and at the other end of the queue changes are taken out until the queue is closed.
Every report puts a change at the end of the queue, or passes because it is about nothing new, or
counts as dropped, and the three can be told apart. One kind of report counts as dropped twice: an
update neither of whose states can be written. The counts of a run come out even just when there is
none of these.

The reports are taken by `on_add`, `on_update` and `on_delete`, and what is dropped is counted by
`drop_change`.
-/

namespace ClusterFeed.Watch

open Time (Instant)

namespace Inlet

/-- What happens to a queue. -/
inductive Move where
  /-- An informer of a type reports. -/
  | report (w : WatchedType) (now : Instant) (cb : Callback)
  /-- The oldest change is taken out, if there is one. -/
  | read
  /-- The queue is closed. -/
  | close

namespace Move

/-- Whether something is reported. -/
def isReport : Move → Bool
  | report _ _ _ => true
  | _ => false

/-- Whether an update is reported that is about nothing new. -/
def isIdle : Move → Bool
  | report w _ cb => cb.isIdle w
  | _ => false

/-- Whether an update is reported neither of whose states can be written. -/
def isMute : Move → Bool
  | report w _ cb => cb.isMute w
  | _ => false

end Move

/-- One thing happens; the change that is taken out comes first. -/
def step (i : Inlet) : Move → Option Change × Inlet
  | .report w now cb => (none, i.take w now cb)
  | .read => (i.intake.items.head?,
      { i with intake := { i.intake with items := i.intake.items.tail } })
  | .close => (none, { i with intake := i.intake.close })

/-- Things happen one after the other; the changes that are taken out come first. -/
def run (i : Inlet) : List Move → List Change × Inlet
  | [] => ([], i)
  | m :: ms =>
    let rest := run (i.step m).2 ms
    ((i.step m).1.toList ++ rest.1, rest.2)

/-- What a report puts behind the changes that are in the queue. -/
def arrived (i : Inlet) : Move → List Change
  | .report w now cb => (i.take w now cb).intake.items.drop i.intake.items.length
  | _ => []

/-- What all reports of a run put into the queue, in their order. -/
def arrivals (i : Inlet) : List Move → List Change
  | [] => []
  | m :: ms => i.arrived m ++ arrivals (i.step m).2 ms

/-- What can become of a report. -/
inductive Entry where
  /-- It puts a change into the queue. -/
  | queued
  /-- It is about nothing new. -/
  | passed
  /-- It is lost. -/
  | lost

/-- A report led from one queue to another in the way of an entry. -/
def Entry.Tells (w : WatchedType) (now : Instant) (cb : Callback) (i i' : Inlet) : Entry → Prop
  | queued => ∃ c, cb.change? w now = some c ∧ i' = i.enqueue c
  | passed => cb.isIdle w = true ∧ i' = i
  | lost => i' = i.drop 1

variable {w : WatchedType} {now : Instant} {cb : Callback} {i i' : Inlet}

/-! ## One report -/

theorem length_lt_of_offer? {q q' : Intake} {c : Change} (h : q.offer? c = some q') :
    q.items.length < q.capacity := by
  unfold Intake.offer? at h
  split at h
  · rename_i hroom
    exact of_decide_eq_true (Bool.and_eq_true_iff.mp hroom).2
  · cases h

theorem length_enqueue (i : Inlet) (c : Change) :
    (i.enqueue c).intake.items.length = i.intake.items.length + 1 := List.length_append

theorem drop_ne_enqueue (i : Inlet) (n : Nat) (c : Change) : i.drop n ≠ i.enqueue c := by
  intro h
  have hlength : (i.drop n).intake.items.length = (i.enqueue c).intake.items.length := by rw [h]
  rw [length_enqueue] at hlength
  exact Nat.succ_ne_self _ hlength.symm

theorem drop_inj (i : Inlet) {n n' : Nat} (h : i.drop n = i.drop n') : n = n' :=
  Nat.add_left_cancel (congrArg Inlet.dropped h)

/-- A report that led to a queue in one way did not lead there in another one. -/
theorem Entry.Tells.unique {e e' : Entry} (h : e.Tells w now cb i i')
    (h' : e'.Tells w now cb i i') : e = e' := by
  have hkept : ∀ c, i ≠ i.enqueue c := i.drop_ne_enqueue 0
  have hlost : ∀ c, i.drop 1 ≠ i.enqueue c := i.drop_ne_enqueue 1
  have hcounted : i.drop 0 ≠ i.drop 1 := fun h => absurd (i.drop_inj h) (by decide)
  cases e with
  | queued =>
    obtain ⟨c, -, rfl⟩ := h
    cases e' with
    | queued => rfl
    | passed => exact absurd h'.2.symm (hkept c)
    | lost => exact absurd (Eq.symm h') (hlost c)
  | passed =>
    obtain ⟨-, rfl⟩ := h
    cases e' with
    | queued => exact absurd h'.choose_spec.2 (hkept _)
    | passed => rfl
    | lost => exact absurd h' hcounted
  | lost =>
    cases h
    cases e' with
    | queued => exact absurd h'.choose_spec.2 (hlost _)
    | passed => exact absurd h'.2.symm hcounted
    | lost => rfl

/-- An update neither of whose states can be written is told by no entry. -/
theorem not_tells_drop_two (hidle : cb.isIdle w = false) (i : Inlet) (e : Entry) :
    ¬ e.Tells w now cb i (i.drop 2) := by
  intro h
  cases e with
  | queued => exact absurd h.choose_spec.2 (i.drop_ne_enqueue 2 _)
  | passed => exact absurd h.1 (by simp [hidle])
  | lost => exact absurd (i.drop_inj h) (by decide)

/-- Exactly one entry tells what became of a report, unless the report counts as dropped twice. -/
theorem existsUnique_entry_iff (w : WatchedType) (now : Instant) (i : Inlet) (cb : Callback) :
    (∃! e : Entry, e.Tells w now cb i (i.take w now cb)) ↔ cb.isMute w = false := by
  have hone : ∀ {i' : Inlet} (e : Entry), e.Tells w now cb i i' →
      ∃! e : Entry, e.Tells w now cb i i' := fun e h => ⟨e, h, fun _ h' => h'.unique h⟩
  have htaken := taken_take w now i cb
  generalize i.take w now cb = i' at htaken ⊢
  cases htaken with
  | queued c hchange _ hmute => exact iff_of_true (hone .queued ⟨c, hchange, rfl⟩) hmute
  | passed hidle hmute => exact iff_of_true (hone .passed ⟨hidle, rfl⟩) hmute
  | lost _ hmute => exact iff_of_true (hone .lost rfl) hmute
  | lostTwice hidle hmute =>
    refine iff_of_false (fun h => ?_) (by simp [hmute])
    exact not_tells_drop_two hidle i _ h.choose_spec.1

/-- Such an update counts as dropped twice. -/
theorem take_of_isMute (hmute : cb.isMute w = true) (now : Instant) (i : Inlet) :
    i.take w now cb = i.drop 2 := by
  have htaken := taken_take w now i cb
  generalize i.take w now cb = i' at htaken ⊢
  cases htaken with
  | queued _ _ _ hspoken => simp [hspoken] at hmute
  | passed _ hspoken => simp [hspoken] at hmute
  | lost _ hspoken => simp [hspoken] at hmute
  | lostTwice => rfl

/-- One update of an object that is no more than a word. -/
example (w : WatchedType) (now : Instant) :
    ((Inlet.mk (.new 4) 0).take w now
      (.update ⟨none, .empty, .str "word"⟩ ⟨none, .empty, .str "word"⟩)).dropped = 2 := rfl

/-! ## A run -/

/-- One step keeps the order of the changes and the length of the queue, and what it counts comes
out even when an update neither of whose states can be written is counted twice. -/
structure Stepped (i : Inlet) (m : Move) (i' : Inlet) : Prop where
  capacity : i'.intake.capacity = i.intake.capacity
  bounded : i.intake.items.length ≤ i.intake.capacity → i'.intake.items.length ≤ i.intake.capacity
  order : (i.step m).1.toList ++ i'.intake.items = i.intake.items ++ i.arrived m
  total : m.isReport.toNat + m.isMute.toNat + i.dropped =
    (i.arrived m).length + m.isIdle.toNat + i'.dropped

theorem stepped_report (w : WatchedType) (now : Instant) (cb : Callback) (i : Inlet) :
    Stepped i (.report w now cb) (i.take w now cb) := by
  have harrived : i.arrived (.report w now cb) =
    (i.take w now cb).intake.items.drop i.intake.items.length := rfl
  -- a report that leaves the queue as it was is made up for by the counts alone
  have hkept : ∀ n, i.arrived (.report w now cb) = (i.drop n).intake.items.drop
      i.intake.items.length → 1 + (cb.isMute w).toNat = (cb.isIdle w).toNat + n →
      Stepped i (.report w now cb) (i.drop n) := by
    intro n hn htotal
    have hnone : i.arrived (.report w now cb) = [] := hn.trans List.drop_length
    refine ⟨rfl, id, ?_, ?_⟩
    · rw [hnone, List.append_nil]
      rfl
    · show 1 + (cb.isMute w).toNat + i.dropped = _ + (cb.isIdle w).toNat + (i.dropped + n)
      rw [hnone, List.length_nil]
      omega
  have htaken := taken_take w now i cb
  generalize i.take w now cb = i' at htaken harrived ⊢
  cases htaken with
  | queued c _ hidle hmute hoffer =>
    have hone : i.arrived (.report w now cb) = [c] := harrived.trans List.drop_left
    refine ⟨rfl, fun _ => ?_, ?_, ?_⟩
    · rw [length_enqueue]
      exact length_lt_of_offer? hoffer
    · rw [hone]
      rfl
    · show 1 + (cb.isMute w).toNat + i.dropped = _ + (cb.isIdle w).toNat + i.dropped
      rw [hone, hidle, hmute]
      rfl
  | passed hidle hmute => exact hkept 0 harrived (by rw [hidle, hmute]; rfl)
  | lost hidle hmute => exact hkept 1 harrived (by rw [hidle, hmute]; rfl)
  | lostTwice hidle hmute => exact hkept 2 harrived (by rw [hidle, hmute]; rfl)

theorem stepped (i : Inlet) (m : Move) : Stepped i m (i.step m).2 := by
  cases m with
  | report w now cb => exact stepped_report w now cb i
  | close => exact ⟨rfl, id, (List.append_nil _).symm, Nat.add_comm _ _ ▸ rfl⟩
  | read =>
    have hitems : i.intake.items.head?.toList ++ i.intake.items.tail = i.intake.items := by
      cases i.intake.items <;> rfl
    refine ⟨rfl, fun h => Nat.le_trans ?_ h, ?_, rfl⟩
    · show i.intake.items.tail.length ≤ _
      rw [List.length_tail]
      exact Nat.sub_le _ _
    · exact hitems.trans (List.append_nil _).symm

theorem run_stepped (i : Inlet) (ms : List Move) :
    (i.run ms).2.intake.capacity = i.intake.capacity ∧
      (i.intake.items.length ≤ i.intake.capacity →
        (i.run ms).2.intake.items.length ≤ i.intake.capacity) := by
  induction ms generalizing i with
  | nil => exact ⟨rfl, id⟩
  | cons m ms ih =>
    obtain ⟨hcapacity, hbounded, -, -⟩ := stepped i m
    obtain ⟨hcapacity', hbounded'⟩ := ih (i.step m).2
    rw [hcapacity] at hbounded'
    exact ⟨hcapacity'.trans hcapacity, fun h => hbounded' (hbounded h)⟩

/-- Changes are taken out in the order in which they came in, and the others are still there. -/
theorem run_order (i : Inlet) (ms : List Move) :
    (i.run ms).1 ++ (i.run ms).2.intake.items = i.intake.items ++ i.arrivals ms := by
  induction ms generalizing i with
  | nil => exact (List.append_nil _).symm
  | cons m ms ih =>
    show ((i.step m).1.toList ++ ((i.step m).2.run ms).1) ++ ((i.step m).2.run ms).2.intake.items =
      i.intake.items ++ (i.arrived m ++ (i.step m).2.arrivals ms)
    rw [List.append_assoc, ih, ← List.append_assoc, (stepped i m).order, List.append_assoc]

theorem run_total (i : Inlet) (ms : List Move) :
    ms.countP Move.isReport + ms.countP Move.isMute + i.dropped =
      (i.arrivals ms).length + ms.countP Move.isIdle + (i.run ms).2.dropped := by
  induction ms generalizing i with
  | nil => rfl
  | cons m ms ih =>
    have hcount : ∀ p : Move → Bool, (m :: ms).countP p = (p m).toNat + ms.countP p := by
      intro p
      rw [List.countP_cons, Nat.add_comm]
      cases p m <;> rfl
    have hstep := (stepped i m).total
    have hrest := ih (i.step m).2
    show _ = (i.arrived m ++ (i.step m).2.arrivals ms).length + _ + ((i.step m).2.run ms).2.dropped
    rw [hcount, hcount, hcount, List.length_append]
    omega

/-- The account of a run that begins with an empty queue. -/
structure Accounted (capacity dropped : Nat) (ms : List Move) : Prop where
  /-- Of each report exactly one entry tells what became of it, but for an update neither of whose
  states can be written: it leaves the queue as it was and counts as dropped twice. -/
  each : ∀ before w now cb after, ms = before ++ .report w now cb :: after →
    let i := (run ⟨.new capacity, dropped⟩ before).2
    ((∃! e : Entry, e.Tells w now cb i (i.take w now cb)) ↔ cb.isMute w = false) ∧
      (cb.isMute w = true → i.take w now cb = i.drop 2)
  /-- There are never more changes in the queue than it holds. -/
  bounded : ∀ before after, ms = before ++ after →
    (run ⟨.new capacity, dropped⟩ before).2.intake.items.length ≤ capacity
  /-- What came into the queue was taken out in this order or is still there. -/
  order : (run ⟨.new capacity, dropped⟩ ms).1 ++ (run ⟨.new capacity, dropped⟩ ms).2.intake.items =
    arrivals ⟨.new capacity, dropped⟩ ms
  /-- The changes that came into the queue, the updates about nothing new and what is counted as
  dropped are as many as the reports and, once more, the updates neither of whose states can be
  written. -/
  total : ms.countP Move.isReport + ms.countP Move.isMute + dropped =
    (arrivals ⟨.new capacity, dropped⟩ ms).length + ms.countP Move.isIdle +
      (run ⟨.new capacity, dropped⟩ ms).2.dropped
  /-- They are as many as the reports just when there is no such update. -/
  even : ms.countP Move.isReport + dropped =
      (arrivals ⟨.new capacity, dropped⟩ ms).length + ms.countP Move.isIdle +
        (run ⟨.new capacity, dropped⟩ ms).2.dropped ↔ ∀ m ∈ ms, m.isMute = false

/-- Every report is accounted for, and all but one kind of them once. -/
theorem reports_are_accounted (capacity dropped : Nat) (ms : List Move) :
    Accounted capacity dropped ms := by
  have htotal := run_total ⟨.new capacity, dropped⟩ ms
  refine ⟨?_, ?_, run_order _ ms, htotal, ?_⟩
  · intro before w now cb after _ i
    exact ⟨existsUnique_entry_iff w now i cb, fun hmute => take_of_isMute hmute now i⟩
  · intro before after _
    exact (run_stepped ⟨.new capacity, dropped⟩ before).2 (Nat.zero_le capacity)
  · have hnone : ms.countP Move.isMute = 0 ↔ ∀ m ∈ ms, m.isMute = false := by
      simp [List.countP_eq_zero]
    rw [← hnone]
    dsimp only at htotal
    omega

end Inlet

end ClusterFeed.Watch
