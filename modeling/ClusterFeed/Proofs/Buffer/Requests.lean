import ClusterFeed.Proofs.Buffer.Reading
import ClusterFeed.Proofs.Feeding.Coalescing
import ClusterFeed.Rehearsal.Recorder

/-!
# The requests that are sent

`flush` makes one request of all that waits, and the loop of `run` sends it before it does anything
else. So the requests that have been answered are those of the batches that were handed over, one
for each and in their order, and no change counts as taken by the index that was not told it in one
of them.
-/

namespace ClusterFeed

open Sync (SyncError)

/-- The request that sends a batch has an item for each change in it. -/
theorem Pending.mem_items {batch : Pending} {id : String} {c : Change} (hc : batch[id]? = some c)
    {i : Item} (hi : c.item? = some i) : i ∈ (Buffer.batchRequest batch).items :=
  (items_perm batch).mem_iff.mpr
    (List.mem_filterMap.mpr ⟨c, KeyedMap.mem_values.mpr ⟨id, hc⟩, hi⟩)

namespace Ledger

variable {l : Ledger} {o o' : Outflow} {done : List Pending} {es : List Outflow.Event}
  {e : Outflow.Event}

/-- The batches that have been answered vouch for the ledger: they are all that were handed over but
for the one that is on its way, and each change that the index took was in one of them. -/
structure Vouches (l : Ledger) (o : Outflow) (done : List Pending) : Prop where
  handed : o.sent = done ++ o.underway.toList
  told : ∀ c, ⟨c, .accepted⟩ ∈ l.lines → ∃ batch ∈ done, batch[c.id]? = some c

/-- Nothing but an answer settles a batch. -/
theorem Vouches.keeps (h : l.Vouches o done) (he : ∀ outcome, e ≠ .finish outcome)
    (hs : o.step? e = some o') : (l.step e).Vouches o' done := by
  refine ⟨?_, fun c hc => ?_⟩
  · cases e with
    | record c =>
      cases hs
      exact h.handed
    | attach on =>
      cases hs
      exact h.handed
    | start =>
      obtain ⟨hnone, -, ⟨hunder, hsent, -⟩ | ⟨hunder, hsent, -⟩⟩ := Outflow.step?_start hs
      · rw [hsent, hunder, h.handed, hnone]
      · rw [hsent, hunder, h.handed, hnone, Option.toList_none, List.append_nil,
          Option.toList_some]
    | finish outcome => exact absurd rfl (he outcome)
  · obtain ⟨n, hn⟩ := List.mem_iff_getElem?.mp hc
    cases turn_of_step hn with
    | kept hold => exact h.told c (List.mem_of_getElem? hold)
    | taken => exact absurd rfl (he _)

/-- An answer settles the batch that was on its way. -/
theorem Vouches.finish (h : l.Vouches o done) (hd : l.Describes o)
    {outcome : Except SyncError Sync.Response} {batch : Pending} (hu : o.underway = some batch)
    (hs : o.step? (.finish outcome) = some o') :
    (l.step (.finish outcome)).Vouches o' (done ++ [batch]) := by
  obtain ⟨_, _, _, hnone, hsent⟩ := Outflow.step?_finish hs
  refine ⟨?_, fun c hc => ?_⟩
  · rw [hsent, hnone, h.handed, hu, Option.toList_some, Option.toList_none, List.append_nil]
  · obtain ⟨n, hn⟩ := List.mem_iff_getElem?.mp hc
    cases turn_of_step hn with
    | kept hold =>
      obtain ⟨earlier, hmem, hat⟩ := h.told c (List.mem_of_getElem? hold)
      exact ⟨earlier, List.mem_append_left _ hmem, hat⟩
    | taken hunder =>
      refine ⟨batch, List.mem_append_right _ List.mem_cons_self, ?_⟩
      exact (hd.holds_batch hu c.id c).mpr ⟨List.mem_of_getElem? hunder, rfl⟩

theorem Vouches.keeps_run (h : l.Vouches o done) (hes : ∀ outcome, .finish outcome ∉ es)
    (hrun : o.run? es = some o') : (l.after es).Vouches o' done := by
  refine Outflow.run?_induction (motive := fun es o => (∀ outcome, .finish outcome ∉ es) →
    (l.after es).Vouches o done) (fun _ => h) (fun es m e m' _ ih hs hes => ?_) hrun hes
  have hbefore := ih fun outcome hmem => hes outcome (List.mem_append_left _ hmem)
  rw [after_concat]
  exact hbefore.keeps (fun outcome he => hes outcome (by simp [he])) hs

/-- After every run the batches that have been answered vouch for the ledger. -/
theorem Vouches.run (h : l.Vouches o done) (hd : l.Describes o) (hrun : o.run? es = some o') :
    ∃ later, (l.after es).Vouches o' (done ++ later) := by
  refine Outflow.run?_induction
    (motive := fun es o' => ∃ later, (l.after es).Vouches o' (done ++ later))
    ⟨[], (List.append_nil done).symm ▸ h⟩ (fun es m e m' hm ih hs => ?_) hrun
  obtain ⟨later, hvouches⟩ := ih
  rw [after_concat]
  cases e with
  | finish outcome =>
    obtain ⟨batch, hu, -⟩ := Outflow.step?_finish hs
    have hnext := hvouches.finish (hd.run hm) hu hs
    rw [List.append_assoc] at hnext
    exact ⟨_, hnext⟩
  | _ => exact ⟨later, hvouches.keeps nofun hs⟩

theorem vouches_takeover (h : o.sent = o.underway.toList) : (takeover o).Vouches o [] :=
  ⟨h, fun c hc => by simp [mem_takeover] at hc⟩

/-- A change that the index took was told it: the request of one of the batches has an item for
it. -/
theorem Vouches.exists_item (h : l.Vouches o done) {c : Change} (hc : ⟨c, .accepted⟩ ∈ l.lines)
    (hbuilt : c.Built) : ∃ r ∈ done.map Buffer.batchRequest, ∃ i ∈ r.items, c.item? = some i := by
  obtain ⟨batch, hmem, hat⟩ := h.told c hc
  obtain ⟨i, hi, -⟩ := hbuilt.exists_item
  exact ⟨_, List.mem_map_of_mem hmem, i, Pending.mem_items hat hi, hi⟩

end Ledger

/-! ## The loop sends them -/

namespace Outflow

theorem run?_record (o : Outflow) (cs : List Change) :
    o.run? (cs.map .record) = some { o with buffer := o.buffer.recordAll cs } := by
  induction cs generalizing o with
  | nil => rfl
  | cons c cs ih => exact ih { o with buffer := o.buffer.record c }

end Outflow

namespace FlushLoop

variable {σ : Type} {send : Sync.Request → σ → Except SyncError Sync.Response × σ}
  {log : σ → List Sync.Request} {earlier : List Sync.Request} {ledger : Ledger}

/-- The loop has sent the requests of the batches that have been answered, and no others. -/
structure Sends (log : σ → List Sync.Request) (earlier : List Sync.Request) (ledger : Ledger)
    (l : FlushLoop) (s : σ) (sent done : List Pending) : Prop where
  describes : ledger.Describes (l.outflow sent)
  vouches : ledger.Vouches (l.outflow sent) done
  logged : log s = earlier ++ done.map Buffer.batchRequest

/-- The loop comes to another state, and what it does to its buffer is entered into the ledger. -/
def Reports (log : σ → List Sync.Request) (earlier : List Sync.Request) (ledger : Ledger)
    (l : FlushLoop) (sent : List Pending) (l' : FlushLoop) (s' : σ) : Prop :=
  ∃ es sent' done', (l.outflow sent).run? es = some (l'.outflow sent') ∧
    (ledger.after es).Vouches (l'.outflow sent') done' ∧
    log s' = earlier ++ done'.map Buffer.batchRequest

variable {l l' l'' : FlushLoop} {s s' : σ} {sent sent' done : List Pending}

/-- What is done first comes first in the report. -/
theorem Reports.after {es : List Outflow.Event}
    (hrun : (l.outflow sent).run? es = some (l'.outflow sent'))
    (h : Reports log earlier (ledger.after es) l' sent' l'' s') :
    Reports log earlier ledger l sent l'' s' := by
  obtain ⟨es', sent'', done'', hrun', hvouches, hlog⟩ := h
  refine ⟨es ++ es', sent'', done'', Outflow.run?_append.mpr ⟨_, hrun, hrun'⟩, ?_, hlog⟩
  unfold Ledger.after at hvouches ⊢
  rw [List.foldl_append]
  exact hvouches

/-- A turn sends nothing yet. -/
theorem Sends.turn (h : Sends log earlier ledger l s sent done) (hturn : l.turn? = some l') :
    ∃ es sent', (l.outflow sent).run? es = some (l'.outflow sent') ∧
      Sends log earlier (ledger.after es) l' s sent' done := by
  obtain ⟨hphase, hturned⟩ := turned_of_turn? hturn
  obtain ⟨sent', hrun⟩ := hturned.flows hphase sent
  have hcalm : ∀ outcome, .finish outcome ∉ l.deed?.toList := by
    intro outcome
    generalize l.deed? = d at hturned
    cases hturned <;> simp
  exact ⟨_, sent', hrun, h.describes.run hrun, h.vouches.keeps_run hcalm hrun, h.logged⟩

/-- What comes in while a batch is on its way waits, and then the batch is answered. -/
theorem Sends.answer (hsend : ∀ r s, log (send r s).2 = log s ++ [r])
    (h : Sends log earlier ledger l s sent done) {batch : Pending}
    (hu : l.underway? = some batch) (during : List Change) :
    let busy : FlushLoop := { l with buffer := l.buffer.recordAll during }
    let (outcome, s') := send (Buffer.batchRequest batch) s
    ∃ es, (l.outflow sent).run? es = some ((busy.answer outcome).outflow sent) ∧
      Sends log earlier (ledger.after es) (busy.answer outcome) s' sent (done ++ [batch]) := by
  intro busy
  obtain ⟨⟨outcome, s'⟩, hanswer⟩ : ∃ answer, send (Buffer.batchRequest batch) s = answer :=
    ⟨_, rfl⟩
  rw [hanswer]
  have hbusy : (l.outflow sent).run? (during.map .record) = some (busy.outflow sent) :=
    Outflow.run?_record _ during
  have hanswered := busy.answer_flows hu outcome sent
  have hdescribes := h.describes.run hbusy
  have hvouches := h.vouches.keeps_run (fun outcome hmem => by simp at hmem) hbusy
  refine ⟨during.map .record ++ [.finish outcome],
    Outflow.run?_concat.mpr ⟨_, hbusy, hanswered⟩, ?_, ?_, ?_⟩
  · rw [Ledger.after_concat]
    exact hdescribes.step hanswered
  · rw [Ledger.after_concat]
    exact hvouches.finish hdescribes hu hanswered
  · have hlog := hsend (Buffer.batchRequest batch) s
    rw [hanswer, h.logged] at hlog
    rw [List.map_append, ← List.append_assoc]
    exact hlog

theorem settle_sending {batch : Pending} (hu : l.underway? = some batch) (during : List Change)
    (fuel : Nat) :
    settle send during (fuel + 1) l s =
      settle send [] fuel
        ({ l with buffer := l.buffer.recordAll during }.answer
          (send (Buffer.batchRequest batch) s).1)
        (send (Buffer.batchRequest batch) s).2 := by
  obtain ⟨buffer, intake, cancelled, now, deadline, phase⟩ := l
  cases underway?_eq_some_iff.mp hu
  rfl

theorem settle_turn (hturn : l.turn? = some l') (during : List Change) (fuel : Nat) :
    settle send during (fuel + 1) l s = settle send during fuel l' s := by
  have hphase := (turned_of_turn? hturn).1
  obtain ⟨buffer, intake, cancelled, now, deadline, phase⟩ := l
  cases hphase
  simp only [settle, hturn]

theorem settle_idle (hu : l.underway? = none) (hturn : l.turn? = none) (during : List Change)
    (fuel : Nat) : settle send during (fuel + 1) l s = (l, s) := by
  obtain ⟨buffer, intake, cancelled, now, deadline, phase⟩ := l
  cases phase with
  | sending batch => cases hu
  | waiting => simp only [settle, hturn]
  | ended => simp only [settle, hturn]

/-- However long the loop runs, and whatever comes in while its first batch is on its way, it sends
the requests of its batches, one for each. -/
theorem settle_reports (hsend : ∀ r s, log (send r s).2 = log s ++ [r]) (fuel : Nat)
    (during : List Change) (h : Sends log earlier ledger l s sent done) :
    Reports log earlier ledger l sent (settle send during fuel l s).1
      (settle send during fuel l s).2 := by
  induction fuel generalizing during ledger l s sent done with
  | zero => exact ⟨[], sent, done, rfl, h.vouches, h.logged⟩
  | succ fuel ih =>
    cases hu : l.underway? with
    | some batch =>
      obtain ⟨es, hrun, hnext⟩ := h.answer hsend hu during
      rw [settle_sending hu]
      exact (ih [] hnext).after hrun
    | none =>
      cases hturn : l.turn? with
      | none =>
        rw [settle_idle hu hturn]
        exact ⟨[], sent, done, rfl, h.vouches, h.logged⟩
      | some l' =>
        obtain ⟨es, sent', hrun, hnext⟩ := h.turn hturn
        rw [settle_turn hturn]
        exact (ih during hnext).after hrun

/-- Whatever waits when the loop begins, it sends the requests of its batches, one for each, and
what the index took is in them. -/
theorem run_reports (log : σ → List Sync.Request)
    (hsend : ∀ r s, log (send r s).2 = log s ++ [r]) (hp : l.buffer.pending.Keyed)
    (hu : (l.underway?.getD ∅).Keyed) (during : List Change) (s : σ) :
    Reports log (log s) (Ledger.takeover (l.outflow l.underway?.toList)) l l.underway?.toList
      (l.run send during s).1 (l.run send during s).2 := by
  have hbegun : Sends log (log s) (Ledger.takeover (l.outflow l.underway?.toList)) l s
      l.underway?.toList [] :=
    ⟨Ledger.describes_takeover hp hu, Ledger.vouches_takeover rfl, (List.append_nil _).symm⟩
  exact settle_reports hsend _ during hbegun

end FlushLoop

namespace Rehearsal.Recorder

open FlushLoop

theorem sent_send (r : Sync.Request) (s : Recorder) : (s.send r).2.sent = s.sent ++ [r] := by
  unfold send sent
  exact List.reverse_cons

/-- A rehearsed index keeps the requests of the batches that the loop has handed over to it, and it
has been told every change that counts as taken. -/
theorem keeps_requests {l : FlushLoop} (hp : l.buffer.pending.Keyed)
    (hu : (l.underway?.getD ∅).Keyed) (during : List Change) (mode : Mode) :
    let r := l.run send during (new mode)
    ∃ es handed done, (l.outflow l.underway?.toList).run? es = some (r.1.outflow handed) ∧
      handed = done ++ r.1.underway?.toList ∧ r.2.sent = done.map Buffer.batchRequest ∧
      ∀ c, ⟨c, .accepted⟩ ∈ ((Ledger.takeover (l.outflow l.underway?.toList)).after es).lines →
        c.Built → ∃ request ∈ r.2.sent, ∃ i ∈ request.items, c.item? = some i := by
  intro r
  obtain ⟨es, handed, done, hrun, hvouches, hlog⟩ :=
    run_reports sent sent_send hp hu during (new mode)
  rw [show (new mode).sent = [] from rfl, List.nil_append] at hlog
  refine ⟨es, handed, done, hrun, hvouches.handed, hlog, fun c hc hbuilt => ?_⟩
  rw [hlog]
  exact hvouches.exists_item hc hbuilt

end Rehearsal.Recorder

end ClusterFeed
