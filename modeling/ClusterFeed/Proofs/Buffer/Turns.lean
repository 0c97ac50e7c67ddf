import ClusterFeed.Proofs.Buffer.Numbers

/-!
# How a change comes to its fate

All that one event can do to one line of the ledger. A change whose fate is settled had that fate
from one certain event on, and the event tells why.
-/

namespace ClusterFeed

open Sync (SyncError)
open Time (Duration)

namespace Ledger

/-- How the change with a number comes to a fate in an event. -/
inductive Turn (l : Ledger) (n : Nat) (c : Change) : Outflow.Event → Fate → Prop
  /-- It had the fate before. -/
  | kept {e : Outflow.Event} {f : Fate} (h : l.lines[n]? = some ⟨c, f⟩) : Turn l n c e f
  /-- It comes in without id. -/
  | dropped (hn : n = l.lines.length) (hid : c.id = "") : Turn l n c (.record c) .dropped
  /-- It comes in behind a delete. -/
  | ignored (hn : n = l.lines.length) (hu : c.isUpsert) (hd : l.DeleteWaits c.id) :
      Turn l n c (.record c) .ignored
  /-- It comes in. -/
  | entered (hn : n = l.lines.length) (hid : c.id ≠ "") : Turn l n c (.record c) .waiting
  /-- It waited, and a change of the same id comes in. -/
  | superseded {c' : Change} (h : l.lines[n]? = some ⟨c, .waiting⟩) (hid : c.id = c'.id) :
      Turn l n c (.record c') .superseded
  /-- It waited, and is sent. -/
  | handedOver (h : l.lines[n]? = some ⟨c, .waiting⟩) (ha : l.attached = true) :
      Turn l n c .start .underway
  /-- It waited, and there is no index to send to. -/
  | discarded (h : l.lines[n]? = some ⟨c, .waiting⟩) (ha : l.attached = false) :
      Turn l n c .start .discarded
  /-- It was on its way, and the index took it. -/
  | taken {outcome : Except SyncError Sync.Response} (h : l.lines[n]? = some ⟨c, .underway⟩)
      (ht : Buffer.wasTaken outcome c.id = true) : Turn l n c (.finish outcome) .accepted
  /-- It was on its way and was not taken, and a change of the same id came in meanwhile. -/
  | outdated {outcome : Except SyncError Sync.Response} (h : l.lines[n]? = some ⟨c, .underway⟩)
      (ht : ¬ Buffer.wasTaken outcome c.id) (hw : l.Waits c.id) :
      Turn l n c (.finish outcome) .superseded
  /-- It was on its way and was not taken. -/
  | putBack {outcome : Except SyncError Sync.Response} (h : l.lines[n]? = some ⟨c, .underway⟩)
      (ht : ¬ Buffer.wasTaken outcome c.id) (hw : ¬ l.Waits c.id) :
      Turn l n c (.finish outcome) .waiting

variable {l : Ledger} {n : Nat} {c : Change} {f : Fate} {e : Outflow.Event}

theorem turn_record {c' : Change} (h : (l.record c').lines[n]? = some ⟨c, f⟩) :
    l.Turn n c (.record c') f := by
  unfold record at h
  by_cases hid : c'.id = ""
  · rw [if_pos hid] at h
    rcases getElem?_enter.mp h with hold | ⟨hn, rfl, rfl⟩
    · exact .kept hold
    · exact .dropped hn hid
  · rw [if_neg hid] at h
    by_cases hl : c'.isUpsert ∧ l.DeleteWaits c'.id
    · rw [if_pos hl] at h
      rcases getElem?_enter.mp h with hold | ⟨hn, rfl, rfl⟩
      · exact .kept hold
      · exact .ignored hn hl.1 hl.2
    · rw [if_neg hl] at h
      rcases getElem?_enter.mp h with hold | ⟨hn, rfl, rfl⟩
      · obtain ⟨g, hg, hf⟩ := getElem?_refate.mp hold
        split at hf
        · rename_i hw
          obtain ⟨rfl, hc⟩ := hw
          subst hf
          exact .superseded hg hc
        · subst hf
          exact .kept hg
      · refine .entered ?_ hid
        rwa [supersede, refate, List.length_map] at hn

theorem turn_start (h : l.start.lines[n]? = some ⟨c, f⟩) : l.Turn n c .start f := by
  unfold start at h
  cases ha : l.attached with
  | true =>
    rw [if_pos ha] at h
    obtain ⟨g, hg, hf⟩ := getElem?_refate.mp h
    split at hf
    · rename_i hw
      cases hw
      subst hf
      exact .handedOver hg ha
    · subst hf
      exact .kept hg
  | false =>
    rw [if_neg (by simp [ha])] at h
    obtain ⟨g, hg, hf⟩ := getElem?_refate.mp h
    split at hf
    · rename_i hw
      cases hw
      subst hf
      exact .discarded hg ha
    · subst hf
      exact .kept hg

theorem turn_finish {outcome : Except SyncError Sync.Response}
    (h : (l.refate (l.landing outcome)).lines[n]? = some ⟨c, f⟩) :
    l.Turn n c (.finish outcome) f := by
  obtain ⟨g, hg, hf⟩ := getElem?_refate.mp h
  unfold landing at hf
  split at hf
  · rename_i hu
    cases hu
    split at hf
    · subst hf
      exact .taken hg ‹_›
    · split at hf
      · subst hf
        exact .outdated hg ‹_› ‹_›
      · subst hf
        exact .putBack hg ‹_› ‹_›
  · subst hf
    exact .kept hg

/-- There is no other way to come to a fate. -/
theorem turn_of_step (h : (l.step e).lines[n]? = some ⟨c, f⟩) : l.Turn n c e f := by
  cases e with
  | record c' => exact turn_record h
  | start => exact turn_start h
  | finish outcome => exact turn_finish h
  | attach on => exact .kept h

/-- A change that waits, or is on its way, did so before or has just come in. -/
theorem live_of_step (h : (l.step e).lines[n]? = some ⟨c, f⟩) (hf : f = .waiting ∨ f = .underway) :
    l.lines[n]? = some ⟨c, .waiting⟩ ∨ l.lines[n]? = some ⟨c, .underway⟩ ∨
      (n = l.lines.length ∧ e = .record c ∧ c.id ≠ "") := by
  cases turn_of_step h with
  | kept h' =>
    rcases hf with rfl | rfl
    · exact .inl h'
    · exact .inr (.inl h')
  | entered hn hid => exact .inr (.inr ⟨hn, rfl, hid⟩)
  | handedOver h' => exact .inl h'
  | putBack h' => exact .inr (.inl h')
  | _ => simp at hf

/-! ## Settled fates -/

section Settled

variable {attached : Bool} {es es₁ es₂ : List Outflow.Event}

/-- A change comes to a fate in some event, and did not have it before. -/
theorem exists_turn (h : (ofEvents attached es).lines[n]? = some ⟨c, f⟩) :
    ∃ es₁ e es₂, es = es₁ ++ e :: es₂ ∧ (ofEvents attached es₁).lines[n]? ≠ some ⟨c, f⟩ ∧
      (ofEvents attached es₁).Turn n c e f := by
  induction es using List.reverseRecOn with
  | nil => simp [ofEvents] at h
  | append_singleton es e ih =>
    by_cases hold : (ofEvents attached es).lines[n]? = some ⟨c, f⟩
    · obtain ⟨es₁, e', es₂, rfl, hbefore, hturn⟩ := ih hold
      exact ⟨es₁, e', es₂ ++ [e], by simp, hbefore, hturn⟩
    · rw [ofEvents_concat] at h
      exact ⟨es, e, [], rfl, hold, turn_of_step h⟩

/-- What is settled in an event of a run stays so to its end. -/
theorem getElem?_ofEvents_of_settled (hw : f ≠ .waiting) (hu : f ≠ .underway) {e : Outflow.Event}
    (h : ((ofEvents attached es₁).step e).lines[n]? = some ⟨c, f⟩) :
    (ofEvents attached (es₁ ++ e :: es₂)).lines[n]? = some ⟨c, f⟩ := by
  rw [List.append_cons]
  induction es₂ using List.reverseRecOn with
  | nil => rwa [List.append_nil, ofEvents_concat]
  | append_singleton es₂ e' ih =>
    rw [← List.append_assoc, ofEvents_concat]
    exact getElem?_step_of_settled e' hw hu ih

end Settled

/-! ## Changes that are not sent again -/

/-- The change will not be handed over any more: it holds no place, or it is on its way and the
place to which it could return is taken. -/
def Gone (l : Ledger) (n : Nat) : Prop :=
  ∃ c f, l.lines[n]? = some ⟨c, f⟩ ∧ f ≠ .waiting ∧ (f = .underway → l.Waits c.id)

variable {o o' : Outflow}

theorem Describes.waits_step (h : l.Describes o) (hs : o.step? e = some o') (he : e ≠ .start)
    {id : String} (hw : l.Waits id) : (l.step e).Waits id := by
  have hp := Option.isSome_iff_exists.mpr (h.waiting.waits_iff.mp hw)
  exact (h.step hs).waiting.waits_iff.mpr
    (Option.isSome_iff_exists.mp (Outflow.step?_occupied hs he hp))

theorem Describes.gone_step (h : l.Describes o) (hs : o.step? e = some o') (hn : l.Gone n) :
    (l.step e).Gone n := by
  obtain ⟨c, f, hc, hw, hu⟩ := hn
  have hlt : n < l.lines.length := (List.getElem?_eq_some_iff.mp hc).1
  obtain ⟨g, hg⟩ := getElem?_changes.mp
    (getElem?_changes_step e (getElem?_changes.mpr ⟨f, hc⟩))
  cases turn_of_step hg with
  | kept h' =>
    rw [hc] at h'
    cases h'
    refine ⟨c, f, hg, hw, fun hf => ?_⟩
    refine h.waits_step hs (fun he => ?_) (hu hf)
    -- A sending cannot begin while another one is on its way.
    subst he hf
    have hnone := (Outflow.step?_start hs).1
    exact h.not_underway hnone c (List.mem_of_getElem? hc)
  | dropped hlen _ => omega
  | ignored hlen _ _ => omega
  | entered hlen _ => omega
  | superseded => exact ⟨c, _, hg, by decide, by simp⟩
  | handedOver h' =>
    rw [hc] at h'
    cases h'
    exact absurd rfl hw
  | discarded => exact ⟨c, _, hg, by decide, by simp⟩
  | taken => exact ⟨c, _, hg, by decide, by simp⟩
  | outdated => exact ⟨c, _, hg, by decide, by simp⟩
  | putBack h' _ hno =>
    rw [hc] at h'
    cases h'
    exact absurd (hu rfl) hno

/-- A sending that begins hands over what waits; no other event hands over anything. -/
theorem batches_step_cases (l : Ledger) (e : Outflow.Event) :
    (l.step e).batches = l.batches ∨
      (e = .start ∧ (l.step e).batches = l.batches ++ [l.numbersOf .waiting]) := by
  by_cases he : e = .start
  · subst he
    show l.start.batches = _ ∨ _ ∧ l.start.batches = _
    rw [batches_start]
    split
    · exact .inr ⟨rfl, rfl⟩
    · exact .inl rfl
  · exact .inl (batches_step he)

/-- What is gone after a part of a run is in none of the batches that follow. -/
theorem batches_of_gone {window : Duration} {attached : Bool} {es₁ es₂ : List Outflow.Event}
    (h : (Outflow.new (.new window attached)).run? (es₁ ++ es₂) = some o) :
    ∃ later, (ofEvents attached (es₁ ++ es₂)).batches = (ofEvents attached es₁).batches ++ later ∧
      ∀ n, (ofEvents attached es₁).Gone n →
        (ofEvents attached (es₁ ++ es₂)).Gone n ∧ ∀ ns ∈ later, n ∉ ns := by
  induction es₂ using List.reverseRecOn generalizing o with
  | nil =>
    rw [List.append_nil]
    exact ⟨[], (List.append_nil _).symm, fun n hn => ⟨hn, by simp⟩⟩
  | append_singleton es₂ e ih =>
    rw [← List.append_assoc] at h ⊢
    obtain ⟨m, hm, hs⟩ := Outflow.run?_concat.mp h
    obtain ⟨later, hlater, hgone⟩ := ih hm
    rw [ofEvents_concat]
    have hstep : ∀ n, (ofEvents attached es₁).Gone n →
        ((ofEvents attached (es₁ ++ es₂)).step e).Gone n :=
      fun n hn => (describes_of_run hm).gone_step hs (hgone n hn).1
    rcases batches_step_cases (ofEvents attached (es₁ ++ es₂)) e with hb | ⟨-, hb⟩
    · exact ⟨later, hb.trans hlater, fun n hn => ⟨hstep n hn, (hgone n hn).2⟩⟩
    · refine ⟨later ++ [_], by rw [hb, hlater, List.append_assoc], fun n hn => ⟨hstep n hn, ?_⟩⟩
      obtain ⟨⟨c, f, hc, hw, -⟩, hnot⟩ := hgone n hn
      intro ns hns
      rcases List.mem_append.mp hns with hns | hns
      · exact hnot ns hns
      · rw [List.mem_singleton] at hns
        subst hns
        intro hmem
        obtain ⟨c', hc'⟩ := mem_numbersOf.mp hmem
        rw [hc] at hc'
        cases hc'
        exact hw rfl

end Ledger

end ClusterFeed
