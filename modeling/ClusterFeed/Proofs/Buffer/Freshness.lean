import ClusterFeed.Proofs.Buffer.Turns

/-!
# What is sent never goes back in time

Of two batches with a change of the same id, the later one has the same change or one that came in
later. What carries this over a run is that a change which is waiting or on its way never came in
before one of its id that was handed over already.
-/

namespace ClusterFeed

open Sync (SyncError)
open Time (Duration)

namespace Ledger

variable {l : Ledger} {o o' : Outflow} {e : Outflow.Event} {n m : Nat} {c c' : Change} {f : Fate}

/-- No number of the second list is that of a change which came in before one of the first list
with its id. -/
def InOrder (cs : List Change) (ns ms : List Nat) : Prop :=
  ∀ n ∈ ns, ∀ m ∈ ms, ∀ c c', cs[n]? = some c → cs[m]? = some c' → c.id = c'.id → n ≤ m

/-- Of an id, nothing is waiting or on its way that came in before what was handed over. -/
structure Forward (l : Ledger) : Prop where
  known : ∀ ns ∈ l.batches, ∀ n ∈ ns, n < l.changes.length
  sent : l.batches.Pairwise (InOrder l.changes)
  waiting : ∀ ns ∈ l.batches, InOrder l.changes ns (l.numbersOf .waiting)
  underway : ∀ ns ∈ l.batches, InOrder l.changes ns (l.numbersOf .underway)

theorem InOrder.append {cs : List Change} {ns ms : List Nat} (h : InOrder cs ns ms)
    (hns : ∀ n ∈ ns, n < cs.length) (hms : ∀ m ∈ ms, m < cs.length) (cs' : List Change) :
    InOrder (cs ++ cs') ns ms := by
  intro n hn m hm c c' hc hc' hid
  rw [List.getElem?_append_left (hns n hn)] at hc
  rw [List.getElem?_append_left (hms m hm)] at hc'
  exact h n hn m hm c c' hc hc' hid

theorem lt_of_mem_numbersOf (h : n ∈ l.numbersOf f) : n < l.changes.length := by
  obtain ⟨c, hc⟩ := mem_numbersOf.mp h
  exact (List.getElem?_eq_some_iff.mp (getElem?_changes.mpr ⟨f, hc⟩)).1

/-- What was handed over before an event came in before all that is waiting or on its way after it.
-/
theorem Forward.inOrder_step (h : l.Forward) {ns : List Nat} (hns : ns ∈ l.batches)
    (hf : f = .waiting ∨ f = .underway) :
    InOrder (l.step e).changes ns ((l.step e).numbersOf f) := by
  intro n hn m hm c c' hc hc' hid
  have hlt := h.known ns hns n hn
  rw [changes_step, List.getElem?_append_left hlt] at hc
  obtain ⟨c'', hm⟩ := mem_numbersOf.mp hm
  rw [getElem?_changes.mpr ⟨f, hm⟩] at hc'
  cases hc'
  rcases live_of_step hm hf with hw | hu | ⟨hlen, -⟩
  · exact h.waiting ns hns n hn m (mem_numbersOf.mpr ⟨c', hw⟩) c c' hc
      (getElem?_changes.mpr ⟨_, hw⟩) hid
  · exact h.underway ns hns n hn m (mem_numbersOf.mpr ⟨c', hu⟩) c c' hc
      (getElem?_changes.mpr ⟨_, hu⟩) hid
  · rw [changes, List.length_map] at hlt
    omega

/-- When a sending has begun, all that is waiting or on its way is what it took. -/
theorem Describes.inOrder_start (h : l.Describes o) (hs : o.step? .start = some o')
    (hf : f = .waiting ∨ f = .underway) :
    InOrder (l.step .start).changes (l.numbersOf .waiting) ((l.step .start).numbersOf f) := by
  intro n hn m hm c c' hc hc' hid
  obtain ⟨a, hn⟩ := mem_numbersOf.mp hn
  rw [getElem?_changes_step _ (getElem?_changes.mpr ⟨_, hn⟩)] at hc
  cases hc
  obtain ⟨b, hm⟩ := mem_numbersOf.mp hm
  rw [getElem?_changes.mpr ⟨f, hm⟩] at hc'
  cases hc'
  rcases live_of_step hm hf with hw | hu | ⟨-, hrecord, -⟩
  · exact Nat.le_of_eq (h.number_unique hn hw hid (.inl rfl))
  · -- Nothing was on its way, or the sending could not have begun.
    have hnone := (Outflow.step?_start hs).1
    exact absurd (List.mem_of_getElem? hu) (h.not_underway hnone c')
  · cases hrecord

theorem Forward.known_step (h : l.Forward) (e : Outflow.Event) :
    ∀ ns ∈ l.batches, ∀ n ∈ ns, n < (l.step e).changes.length := by
  intro ns hns n hn
  have hlt := h.known ns hns n hn
  rw [changes_step, List.length_append]
  omega

theorem Forward.sent_step (h : l.Forward) (e : Outflow.Event) :
    l.batches.Pairwise (InOrder (l.step e).changes) := by
  rw [changes_step]
  exact h.sent.imp_of_mem fun ha hb hab => hab.append (h.known _ ha) (h.known _ hb) _

/-- A sending that begins makes what waited the last of the batches. -/
theorem Forward.start (h : l.Forward) (hd : l.Describes o) (hs : o.step? .start = some o')
    (hb : (l.step .start).batches = l.batches ++ [l.numbersOf .waiting]) :
    (l.step .start).Forward := by
  have hold : ∀ f, f = .waiting ∨ f = .underway → ∀ ns ∈ l.batches ++ [l.numbersOf .waiting],
      InOrder (l.step .start).changes ns ((l.step .start).numbersOf f) := by
    intro f hf ns hns
    rcases List.mem_append.mp hns with hns | hns
    · exact h.inOrder_step hns hf
    · rw [List.mem_singleton] at hns
      subst hns
      exact hd.inOrder_start hs hf
  refine ⟨?_, ?_, ?_, ?_⟩
  · rw [hb]
    intro ns hns n hn
    rcases List.mem_append.mp hns with hns | hns
    · exact h.known_step .start ns hns n hn
    · rw [List.mem_singleton] at hns
      subst hns
      have hlt := lt_of_mem_numbersOf hn
      rw [changes_step, List.length_append]
      omega
  · rw [hb]
    refine List.pairwise_append.mpr
      ⟨h.sent_step .start, List.pairwise_singleton _ _, fun ns hns ms hms => ?_⟩
    rw [List.mem_singleton] at hms
    subst hms
    rw [changes_step]
    exact (h.waiting ns hns).append (h.known ns hns) (fun m hm => lt_of_mem_numbersOf hm) _
  · rw [hb]
    exact hold _ (.inl rfl)
  · rw [hb]
    exact hold _ (.inr rfl)

theorem Forward.step (h : l.Forward) (hd : l.Describes o) (hs : o.step? e = some o') :
    (l.step e).Forward := by
  rcases batches_step_cases l e with hb | ⟨rfl, hb⟩
  · refine ⟨?_, ?_, ?_, ?_⟩
    · rw [hb]
      exact h.known_step e
    · rw [hb]
      exact h.sent_step e
    · rw [hb]
      exact fun ns hns => h.inOrder_step hns (.inl rfl)
    · rw [hb]
      exact fun ns hns => h.inOrder_step hns (.inr rfl)
  · exact h.start hd hs hb

variable {window : Duration} {attached : Bool} {es : List Outflow.Event}

theorem forward_of_run (h : (Outflow.new (.new window attached)).run? es = some o) :
    (ofEvents attached es).Forward := by
  refine Outflow.run?_induction (motive := fun es _ => (ofEvents attached es).Forward)
    ⟨by simp [ofEvents], List.Pairwise.nil, by simp [ofEvents], by simp [ofEvents]⟩
    (fun es m e m' hm ih hs => ?_) h
  rw [ofEvents_concat]
  exact ih.step (describes_of_run hm) hs

/-- A change without id never comes to wait. -/
theorem id_ne_empty_of_live (hc : (ofEvents attached es).lines[n]? = some ⟨c, f⟩)
    (hf : f = .waiting ∨ f = .underway) : c.id ≠ "" := by
  induction es using List.reverseRecOn generalizing f with
  | nil => simp [ofEvents] at hc
  | append_singleton es e ih =>
    rw [ofEvents_concat] at hc
    rcases live_of_step hc hf with hw | hu | ⟨-, -, hid⟩
    · exact ih hw (.inl rfl)
    · exact ih hu (.inr rfl)
    · exact hid

/-- A change that is on its way when another one of its id comes in is not handed over again. -/
theorem gone_of_record (h : (Outflow.new (.new window attached)).run? (es ++ [.record c']) = some o)
    (hc : (ofEvents attached es).lines[n]? = some ⟨c, .underway⟩) (hid : c.id = c'.id) :
    (ofEvents attached (es ++ [.record c'])).Gone n := by
  have hd := describes_of_run h
  obtain ⟨m, hm, hs⟩ := Outflow.run?_concat.mp h
  have hne := id_ne_empty_of_live hc (.inr rfl)
  have hp : (o.buffer.pending[c.id]?).isSome := by
    cases hs
    show ((m.buffer.record c').pending[c.id]?).isSome
    rw [Buffer.getElem?_record, if_pos ⟨hid.symm, hne⟩]
    rfl
  have hw := hd.waiting.waits_iff.mpr (Option.isSome_iff_exists.mp hp)
  rw [ofEvents_concat] at hw ⊢
  exact ⟨c, _, getElem?_record c' (by decide) hc, by decide, fun _ => hw⟩

/-- What the batches of a run have to do with the order in which changes came in. -/
structure Freshness (window : Duration) (attached : Bool) (es : List Outflow.Event) (o : Outflow) :
    Prop where
  /-- The batches that were handed over are those of the ledger. -/
  sent : List.Forall₂ (Lists (Outflow.recorded es)) o.sent (ofEvents attached es).batches
  /-- Of two changes of one id, a later batch has the same or the one that came in later. -/
  forward : (ofEvents attached es).batches.Pairwise (InOrder (Outflow.recorded es))
  /-- What is put back at the end of a sending replaces nothing. -/
  kept : ∀ es₁ outcome es₂ m m', es = es₁ ++ .finish outcome :: es₂ →
    (Outflow.new (.new window attached)).run? es₁ = some m →
    m.step? (.finish outcome) = some m' →
    ∀ (id : String) (c : Change), m.buffer.pending[id]? = some c →
      m'.buffer.pending[id]? = some c
  /-- What was on its way when a change of its id came in is in none of the batches that follow. -/
  outdated : ∀ es₁ c' es₂, es = es₁ ++ .record c' :: es₂ →
    ∃ later, (ofEvents attached es).batches = (ofEvents attached es₁).batches ++ later ∧
      ∀ n ∈ (ofEvents attached es₁).numbersOf .underway, ∀ c,
        (Outflow.recorded es)[n]? = some c → c.id = c'.id → ∀ ns ∈ later, n ∉ ns

/-- What is sent never goes back in time. -/
theorem freshness_of_run (window : Duration) (attached : Bool) (es : List Outflow.Event)
    (o : Outflow) (hrun : (Outflow.new (.new window attached)).run? es = some o) :
    Freshness window attached es o := by
  have hchanges := changes_ofEvents attached es
  refine ⟨?_, ?_, ?_, ?_⟩
  · rw [← hchanges]
    exact sent_of_run hrun
  · rw [← hchanges]
    exact (forward_of_run hrun).sent
  · intro es₁ outcome es₂ m m' _ _ hs id c hp
    obtain ⟨batch, -, hb, -, -⟩ := Outflow.step?_finish hs
    rw [hb, Buffer.getElem?_endFlush, hp]
    rfl
  · rintro es₁ c' es₂ rfl
    rw [List.append_cons] at hrun ⊢
    obtain ⟨m, hm, -⟩ := Outflow.run?_append.mp hrun
    obtain ⟨later, hlater, hgone⟩ := batches_of_gone hrun
    have hsame : (ofEvents attached (es₁ ++ [.record c'])).batches =
        (ofEvents attached es₁).batches := by
      rw [ofEvents_concat]
      exact batches_step (by simp)
    refine ⟨later, hsame ▸ hlater, fun n hn c hc hid => (hgone n ?_).2⟩
    obtain ⟨a, ha⟩ := mem_numbersOf.mp hn
    have hsome : (Outflow.recorded (es₁ ++ ([.record c'] ++ es₂)))[n]? = some a :=
      getElem?_recorded_append (getElem?_recorded.mpr ⟨_, ha⟩)
    rw [← List.append_assoc, hc] at hsome
    cases hsome
    exact gone_of_record hm ha hid

theorem freshness_of_variedRun :
    (ofEvents true variedRun).batches = [[0, 2], [0, 3], [5]] ∧
      ∃ o, (Outflow.new (.new ⟨0⟩ true)).run? variedRun = some o ∧
        Freshness ⟨0⟩ true variedRun o := by
  have hsome : ((Outflow.new (.new ⟨0⟩ true)).run? variedRun).isSome := by decide +kernel
  obtain ⟨o, hrun⟩ := Option.isSome_iff_exists.mp hsome
  exact ⟨by decide +kernel, o, hrun, freshness_of_run ⟨0⟩ true variedRun o hrun⟩

end Ledger

end ClusterFeed
