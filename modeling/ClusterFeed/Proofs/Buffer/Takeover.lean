import ClusterFeed.Proofs.Buffer.Turns

/-!
# A ledger begun late

A ledger can be begun when changes already wait in the buffer, or are on their way: it opens with a
line for each of them. If there is an index all the time, then once nothing waits and nothing is on
its way, every change that has an id was taken by the index or has given way to another one of its
id.
-/

namespace ClusterFeed

open Sync (SyncError)

/-- Each change of a map is under its own id. -/
def Pending.Keyed (p : Pending) : Prop := ∀ (id : String) (c : Change), p[id]? = some c → c.id = id

namespace Pending

theorem keyed_empty : (∅ : Pending).Keyed := by
  intro id c hc
  simp at hc

theorem Keyed.record {b : Buffer} (h : b.pending.Keyed) (c : Change) :
    (b.record c).pending.Keyed := by
  intro id c' hc'
  rw [Buffer.getElem?_record] at hc'
  split at hc'
  · rename_i hid
    cases hc'
    unfold Change.onto
    split
    · cases hp : b.pending[id]? with
      | none => exact hid.1
      | some old => exact h id old hp
    · exact hid.1
  · exact h id c' hc'

theorem Keyed.endFlush {b : Buffer} (h : b.pending.Keyed) {batch : Pending} (hbatch : batch.Keyed)
    (outcome : Except SyncError Sync.Response) : (b.endFlush batch outcome).2.pending.Keyed := by
  intro id c hc
  rw [Buffer.getElem?_endFlush, Option.or_eq_some_iff] at hc
  rcases hc with hc | ⟨-, hc⟩
  · exact h id c hc
  · split at hc
    · cases hc
    · exact hbatch id c hc

end Pending

namespace Ledger

/-- The ledger of an outflow that is begun now. -/
def takeover (o : Outflow) : Ledger where
  attached := o.buffer.attached
  lines := (o.underway.getD ∅).values.map (⟨·, .underway⟩) ++
    o.buffer.pending.values.map (⟨·, .waiting⟩)
  batches := o.underway.toList.map fun batch => List.range batch.size

/-- The ledger after events. -/
def after (l : Ledger) (es : List Outflow.Event) : Ledger := es.foldl step l

variable {l : Ledger} {o o' : Outflow} {es : List Outflow.Event} {e : Outflow.Event}

theorem after_concat (l : Ledger) (es : List Outflow.Event) (e : Outflow.Event) :
    l.after (es ++ [e]) = (l.after es).step e := by
  unfold after
  rw [List.foldl_append]
  rfl

/-- A late ledger too gets a line for each change that comes in, and only for these. -/
theorem changes_after (l : Ledger) (es : List Outflow.Event) :
    (l.after es).changes = l.changes ++ Outflow.recorded es := by
  induction es using List.reverseRecOn with
  | nil => exact (List.append_nil _).symm
  | append_singleton es e ih =>
    rw [after_concat, changes_step, ih, List.append_assoc, Outflow.recorded_append]

theorem changes_takeover (o : Outflow) :
    (takeover o).changes = (o.underway.getD ∅).values ++ o.buffer.pending.values := by
  simp [changes, takeover, Function.comp_def]

/-! ## The late ledger and the buffer -/

theorem mem_takeover {c : Change} {f : Fate} : ⟨c, f⟩ ∈ (takeover o).lines ↔
    (f = .underway ∧ c ∈ (o.underway.getD ∅).values) ∨
      (f = .waiting ∧ c ∈ o.buffer.pending.values) := by
  simp [takeover, and_comm, eq_comm]

/-- A map whose changes are under their ids holds them under just these. -/
theorem holds_values {p : Pending} (h : p.Keyed) {f : Fate}
    (hl : ∀ c, ⟨c, f⟩ ∈ l.lines ↔ c ∈ p.values) : l.Holds f p := by
  intro id c
  rw [hl, KeyedMap.mem_values]
  constructor
  · exact fun hc => ⟨⟨id, hc⟩, h id c hc⟩
  · rintro ⟨⟨k, hk⟩, rfl⟩
    rwa [h k c hk]

theorem before_takeover (hp : o.buffer.pending.Keyed) (hu : (o.underway.getD ∅).Keyed) :
    (takeover o).lines.Pairwise Line.Before := by
  -- within one map no two changes have the same id
  have hone : ∀ {p : Pending}, p.Keyed → ∀ f : Fate,
      (p.values.map fun c => (⟨c, f⟩ : Line)).Pairwise Line.Before := by
    intro p hkeyed f
    refine List.pairwise_map.mpr ((KeyedMap.pairwise_values Change.id hkeyed).imp ?_)
    exact fun hab hid => absurd hid hab
  refine List.pairwise_append.mpr ⟨hone hu _, hone hp _, fun a ha b hb _ _ _ => ?_⟩
  obtain ⟨-, -, rfl⟩ := List.mem_map.mp ha
  obtain ⟨-, -, rfl⟩ := List.mem_map.mp hb
  exact ⟨rfl, rfl⟩

theorem describes_takeover (hp : o.buffer.pending.Keyed) (hu : (o.underway.getD ∅).Keyed) :
    (takeover o).Describes o :=
  ⟨rfl, holds_values hp fun c => by simp [mem_takeover],
    holds_values hu fun c => by simp [mem_takeover], before_takeover hp hu⟩

/-- What the ledger says at the beginning of a run it says, with the events entered, at its end. -/
theorem Describes.run (h : l.Describes o) (hrun : o.run? es = some o') :
    (l.after es).Describes o' := by
  refine Outflow.run?_induction (motive := fun es o => (l.after es).Describes o) h
    (fun es m e m' _ hm hs => ?_) hrun
  rw [after_concat]
  exact hm.step hs

/-! ## With an index all the time -/

/-- There is an index, nothing was thrown away for want of one, and only changes without id were
dropped. -/
structure Spares (l : Ledger) : Prop where
  attached : l.attached = true
  kept : ∀ c, ⟨c, .discarded⟩ ∉ l.lines
  named : ∀ c, ⟨c, .dropped⟩ ∈ l.lines → c.id = ""

theorem spares_takeover (ha : o.buffer.attached = true) : (takeover o).Spares := by
  refine ⟨ha, fun c hc => ?_, fun c hc => ?_⟩
  · simp [mem_takeover] at hc
  · simp [mem_takeover] at hc

theorem attached_step (l : Ledger) (he : ∀ on, e ≠ .attach on) :
    (l.step e).attached = l.attached := by
  cases e with
  | record c =>
    show (l.record c).attached = l.attached
    unfold record
    split
    · rfl
    · split <;> rfl
  | start =>
    show l.start.attached = l.attached
    unfold start
    split <;> rfl
  | finish outcome => rfl
  | attach on => exact absurd rfl (he on)

theorem Spares.step (h : l.Spares) (he : ∀ on, e ≠ .attach on) : (l.step e).Spares := by
  refine ⟨(attached_step l he).trans h.attached, fun c hc => ?_, fun c hc => ?_⟩
  · obtain ⟨n, hn⟩ := List.mem_iff_getElem?.mp hc
    cases turn_of_step hn with
    | kept hold => exact h.kept c (List.mem_of_getElem? hold)
    | discarded _ hno =>
      rw [h.attached] at hno
      cases hno
  · obtain ⟨n, hn⟩ := List.mem_iff_getElem?.mp hc
    cases turn_of_step hn with
    | kept hold => exact h.named c (List.mem_of_getElem? hold)
    | dropped _ hid => exact hid

theorem Spares.after (h : l.Spares) (hes : ∀ on, .attach on ∉ es) : (l.after es).Spares := by
  induction es generalizing l with
  | nil => exact h
  | cons e es ih =>
    refine ih (h.step fun on he => hes on ?_) fun on hon => hes on (List.mem_cons_of_mem _ hon)
    rw [he]
    exact List.mem_cons_self

/-- What becomes of the changes once nothing waits and nothing is on its way. -/
theorem Spares.fate_of_quiet (h : l.Spares) (hd : l.Describes o) (hp : o.buffer.pending = ∅)
    (hu : o.underway = none) {e : Line} (he : e ∈ l.lines) (hid : e.change.id ≠ "") :
    e.fate = .accepted ∨ e.fate = .superseded ∨ e.fate = .ignored := by
  obtain ⟨c, f⟩ := e
  cases f with
  | waiting =>
    have hheld := (hd.waiting c.id c).mpr ⟨he, rfl⟩
    rw [hp] at hheld
    simp at hheld
  | underway => exact absurd he (hd.not_underway hu c)
  | accepted => exact .inl rfl
  | superseded => exact .inr (.inl rfl)
  | ignored => exact .inr (.inr rfl)
  | discarded => exact absurd he (h.kept c)
  | dropped => exact absurd (h.named c he) hid

end Ledger

end ClusterFeed
