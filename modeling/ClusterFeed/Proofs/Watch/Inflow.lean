import ClusterFeed.Watch.Inlet
import ClusterFeed.Proofs.Watch.Reports

/-!
# From reports into the queue

A report puts the change that is made of it into the queue, or leaves the queue as it was. When the
objects that are reported can be written, and as long as the queue drops nothing, it holds these
changes in the order of the reports.

The reports are taken by `on_add`, `on_update` and `on_delete`.
-/

namespace ClusterFeed.Watch

open Cluster (Manifest Key)
open Time (Instant)

variable {w : WatchedType} {namespaced : Bool} {cache cache' : Cache} {now : Instant}

/-- The objects of a report can be written. -/
def Callback.Writes (w : WatchedType) : Callback → Prop
  | .add m => ∃ j, m.filled? w = some j
  | .update old new => (∃ j, old.filled? w = some j) ∧ ∃ j, new.filled? w = some j
  | .delete m => ∃ j, m.filled? w = some j

theorem Fits.exists_filled {m : Manifest} (h : Watch.Fits w namespaced m) :
    ∃ j, m.filled? w = some j := by
  obtain ⟨k, hk, -⟩ := h.keyed
  obtain ⟨j, hj, -⟩ := h.filled hk
  exact ⟨j, hj⟩

theorem writes_report (h : cache.WellKept w namespaced) {k : Key} {m : Manifest}
    (hm : Watch.Fits w namespaced m) (hk : m.key? = some k) : (cache.report k m).Writes w := by
  unfold Cache.report
  rw [h.find? (hm.isProper hk)]
  cases hc : cache[k]? with
  | none => exact hm.exists_filled
  | some old => exact ⟨(h k old hc).2.exists_filled, hm.exists_filled⟩

theorem writes_of_dispatch (h : cache.WellKept w namespaced) {e : Event} (he : e.Fits w namespaced)
    {cs : List Callback} (hd : dispatch? cache e = some (cs, cache')) : ∀ cb ∈ cs, cb.Writes w := by
  intro cb hcb
  cases dispatched hd with
  | applied hk =>
    rw [List.mem_singleton] at hcb
    subst hcb
    exact writes_report h he hk
  | deleted hk =>
    rw [List.mem_singleton] at hcb
    subst hcb
    exact Fits.exists_filled he
  | restarted hes =>
    rcases List.mem_append.mp hcb with hcb | hcb
    · obtain ⟨m, hm, rfl⟩ := List.mem_map.mp hcb
      obtain ⟨k, hkm, -⟩ := mem_missing.mp hm
      exact (h k m hkm).2.exists_filled
    · obtain ⟨⟨k, m⟩, hm, rfl⟩ := List.mem_map.mp hcb
      obtain ⟨hm, hk⟩ := (mem_of_keyed? hes).mp hm
      exact writes_report h (he.1 m hm) hk

namespace Callback

/-- Both states of an updated object can be written, and the labels are the same. -/
def isIdle (w : WatchedType) : Callback → Bool
  | .update old new =>
    match old.filled? w, new.filled? w with
    | some o, some n => decide (Object.labels o = Object.labels n)
    | _, _ => false
  | _ => false

/-- Neither state of an updated object can be written. -/
def isMute (w : WatchedType) : Callback → Bool
  | .update old new => (old.filled? w).isNone && (new.filled? w).isNone
  | _ => false

end Callback

theorem upsert_or_delete {cb : Callback} {ch : Change} (h : cb.change? w now = some ch) :
    cb.isDelete = false ∧ (∃ s, ch = .upsert s) ∨ cb.isDelete = true ∧ ∃ i, ch = .delete i := by
  cases cb with
  | add m =>
    obtain ⟨j, -, rfl⟩ := Option.map_eq_some_iff.mp h
    exact .inl ⟨rfl, _, rfl⟩
  | update old new =>
    simp only [Callback.change?] at h
    split at h
    · split at h
      · cases h
        exact .inl ⟨rfl, _, rfl⟩
      · cases h
    · cases h
  | delete m =>
    obtain ⟨j, -, rfl⟩ := Option.map_eq_some_iff.mp h
    exact .inr ⟨rfl, _, rfl⟩

namespace Inlet

theorem take_eq (now : Instant) {cb : Callback} (h : cb.Writes w) (i : Inlet) :
    i.take w now cb = match cb.change? w now with
      | some ch => i.offer ch
      | none => i := by
  cases cb with
  | add m =>
    obtain ⟨j, hj⟩ := h
    simp only [take, Callback.change?, hj, Option.map_some]
  | update old new =>
    obtain ⟨⟨o, ho⟩, n, hn⟩ := h
    rw [change?_update ho hn]
    simp only [take, ho, hn]
    split <;> rfl
  | delete m =>
    obtain ⟨j, hj⟩ := h
    simp only [take, Callback.change?, hj, Option.map_some]

/-- A change that is offered is taken into the queue, or counted as dropped. -/
theorem offer_cases (i : Inlet) (ch : Change) :
    ((i.offer ch).dropped = i.dropped ∧
        (i.offer ch).intake = { i.intake with items := i.intake.items ++ [ch] }) ∨
      (i.offer ch).dropped = i.dropped + 1 := by
  unfold offer Intake.offer?
  split
  · rename_i q hq
    split at hq
    · cases hq
      exact .inl ⟨rfl, rfl⟩
    · cases hq
  · exact .inr rfl

/-- The queue with one more change at its end. -/
def enqueue (i : Inlet) (c : Change) : Inlet :=
  { i with intake := { i.intake with items := i.intake.items ++ [c] } }

variable {cb : Callback}

/-- All that a report can do to the queue. -/
inductive Taken (w : WatchedType) (now : Instant) (cb : Callback) (i : Inlet) : Inlet → Prop where
  | queued (c : Change) (hchange : cb.change? w now = some c) (hidle : cb.isIdle w = false)
    (hmute : cb.isMute w = false) (hoffer : i.intake.offer? c = some (i.enqueue c).intake) :
    Taken w now cb i (i.enqueue c)
  | passed (hidle : cb.isIdle w = true) (hmute : cb.isMute w = false) : Taken w now cb i i
  | lost (hidle : cb.isIdle w = false) (hmute : cb.isMute w = false) : Taken w now cb i (i.drop 1)
  | lostTwice (hidle : cb.isIdle w = false) (hmute : cb.isMute w = true) :
    Taken w now cb i (i.drop 2)

theorem taken_offer {c : Change} (hchange : cb.change? w now = some c)
    (hidle : cb.isIdle w = false) (hmute : cb.isMute w = false) (i : Inlet) :
    Taken w now cb i (i.offer c) := by
  unfold offer Intake.offer?
  by_cases h : (i.intake.isOpen && decide (i.intake.items.length < i.intake.capacity)) = true
  · rw [if_pos h]
    exact .queued c hchange hidle hmute (if_pos h)
  · rw [if_neg h]
    exact .lost hidle hmute

theorem taken_take (w : WatchedType) (now : Instant) (i : Inlet) (cb : Callback) :
    Taken w now cb i (i.take w now cb) := by
  cases cb with
  | add m =>
    cases hm : m.filled? w with
    | some j =>
      simp only [take, hm]
      exact taken_offer (by simp only [Callback.change?, hm, Option.map_some]) rfl rfl i
    | none =>
      simp only [take, hm]
      exact .lost rfl rfl
  | delete m =>
    cases hm : m.filled? w with
    | some j =>
      simp only [take, hm]
      exact taken_offer (by simp only [Callback.change?, hm, Option.map_some]) rfl rfl i
    | none =>
      simp only [take, hm]
      exact .lost rfl rfl
  | update old new =>
    cases ho : old.filled? w with
    | none =>
      cases hn : new.filled? w with
      | none =>
        simp only [take, ho, hn]
        exact .lostTwice (by simp [Callback.isIdle, ho]) (by simp [Callback.isMute, ho, hn])
      | some n =>
        simp only [take, ho, hn]
        exact .lost (by simp [Callback.isIdle, ho]) (by simp [Callback.isMute, hn])
    | some o =>
      have hmute : (Callback.update old new).isMute w = false := by simp [Callback.isMute, ho]
      cases hn : new.filled? w with
      | none =>
        simp only [take, ho, hn]
        exact .lost (by simp [Callback.isIdle, ho, hn]) hmute
      | some n =>
        have hidle : (Callback.update old new).isIdle w =
            decide (Object.labels o = Object.labels n) := by simp only [Callback.isIdle, ho, hn]
        have hchange : (Callback.update old new).change? w now = _ := change?_update ho hn
        have hwrites : (Callback.update old new).Writes w := ⟨⟨o, ho⟩, n, hn⟩
        rw [take_eq now hwrites]
        by_cases hlabels : Object.labels o = Object.labels n
        · have hsame : Object.isRelevant o n = false := by simp [Object.isRelevant, hlabels]
          rw [hchange, hsame]
          exact .passed (hidle.trans (decide_eq_true hlabels)) hmute
        · have hnew : Object.isRelevant o n = true := by simp [Object.isRelevant, hlabels]
          rw [hnew] at hchange
          rw [hchange]
          exact taken_offer hchange (hidle.trans (decide_eq_false hlabels)) hmute i

theorem dropped_le_take (now : Instant) (i : Inlet) (cb : Callback) :
    i.dropped ≤ (i.take w now cb).dropped := by
  have htaken := taken_take w now i cb
  generalize i.take w now cb = i' at htaken ⊢
  cases htaken with
  | queued => exact Nat.le_refl _
  | passed => exact Nat.le_refl _
  | lost => exact Nat.le_add_right _ _
  | lostTwice => exact Nat.le_add_right _ _

/-- Nothing is ever taken off the count of dropped changes. -/
theorem dropped_le_takeAll (now : Instant) (i : Inlet) (cs : List Callback) :
    i.dropped ≤ (i.takeAll w now cs).dropped := by
  induction cs generalizing i with
  | nil => exact Nat.le_refl _
  | cons cb cs ih => exact Nat.le_trans (dropped_le_take now i cb) (ih (i.take w now cb))

/-- When nothing is dropped, the changes made of reports come into the queue in their order. -/
theorem items_takeAll (now : Instant) {cs : List Callback} (h : ∀ cb ∈ cs, cb.Writes w) {i : Inlet}
    (hd : (i.takeAll w now cs).dropped = i.dropped) :
    (i.takeAll w now cs).intake.items =
      i.intake.items ++ cs.filterMap (Callback.change? w now) := by
  induction cs generalizing i with
  | nil => exact (List.append_nil _).symm
  | cons cb cs ih =>
    have hwrites : ∀ cb' ∈ cs, cb'.Writes w := fun cb' hcb' => h cb' (List.mem_cons_of_mem _ hcb')
    have hstep : i.takeAll w now (cb :: cs) = (i.take w now cb).takeAll w now cs := rfl
    have hfirst := dropped_le_take (w := w) now i cb
    have hrest := dropped_le_takeAll (w := w) now (i.take w now cb) cs
    rw [hstep] at hd ⊢
    rw [ih hwrites (by omega)]
    have htake := take_eq now (h cb List.mem_cons_self) i
    cases hch : cb.change? w now with
    | none =>
      rw [hch] at htake
      rw [List.filterMap_cons_none hch, htake]
    | some ch =>
      rw [hch] at htake
      have hoffer : i.take w now cb = i.offer ch := htake
      rw [hoffer] at hd hrest ⊢
      rw [List.filterMap_cons_some hch]
      rcases i.offer_cases ch with ⟨-, hin⟩ | hdrop
      · rw [hin, List.append_assoc]
        rfl
      · omega

/-! ## What comes into the queue in any case -/

/-- Changes have come into the queue, and nothing else has become of it. -/
structure Grows (i i' : Inlet) (chs : List Change) : Prop where
  intake : i'.intake = { i.intake with items := i.intake.items ++ chs }
  built : ∀ c ∈ chs, c.Built
  closed : i.intake.isOpen = false → chs = []

variable {i i' i'' : Inlet} {chs chs' : List Change}

theorem Grows.refl (i : Inlet) : i.Grows i [] := by
  refine ⟨?_, fun c hc => (nomatch hc), fun _ => rfl⟩
  rw [List.append_nil]

theorem Grows.trans (h : i.Grows i' chs) (h' : i'.Grows i'' chs') : i.Grows i'' (chs ++ chs') := by
  refine ⟨?_, fun c hc => ?_, fun hclosed => ?_⟩
  · rw [h'.intake, h.intake, List.append_assoc]
  · exact (List.mem_append.mp hc).elim (h.built c) (h'.built c)
  · have hclosed' : i'.intake.isOpen = false := by
      rw [h.intake]
      exact hclosed
    rw [h.closed hclosed, h'.closed hclosed', List.append_nil]

theorem grows_drop (i : Inlet) (n : Nat) : i.Grows (i.drop n) [] :=
  ⟨(Grows.refl i).intake, (Grows.refl i).built, fun _ => rfl⟩

theorem exists_grows_offer (i : Inlet) {ch : Change} (h : ch.Built) :
    ∃ chs, i.Grows (i.offer ch) chs := by
  unfold offer Intake.offer?
  by_cases hroom : (i.intake.isOpen && decide (i.intake.items.length < i.intake.capacity)) = true
  · rw [if_pos hroom]
    refine ⟨[ch], rfl, fun c hc => ?_, fun hclosed => ?_⟩
    · rwa [List.mem_singleton.mp hc]
    · simp [hclosed] at hroom
  · rw [if_neg hroom]
    exact ⟨[], grows_drop i 1⟩

theorem exists_grows_take (i : Inlet) (now : Instant) (cb : Callback) :
    ∃ chs, i.Grows (i.take w now cb) chs := by
  unfold take
  cases cb with
  | add m =>
    dsimp only
    split
    · exact i.exists_grows_offer (.inl ⟨_, rfl⟩)
    · exact ⟨[], i.grows_drop 1⟩
  | update old new =>
    dsimp only
    split
    · split
      · exact i.exists_grows_offer (.inl ⟨_, rfl⟩)
      · exact ⟨[], .refl i⟩
    · exact ⟨[], i.grows_drop 2⟩
    · exact ⟨[], i.grows_drop 1⟩
  | delete m =>
    dsimp only
    split
    · exact i.exists_grows_offer (.inr ⟨_, rfl⟩)
    · exact ⟨[], i.grows_drop 1⟩

/-- Whatever is reported, changes are only put behind those in the queue. -/
theorem exists_grows_takeAll (i : Inlet) (now : Instant) (cs : List Callback) :
    ∃ chs, i.Grows (i.takeAll w now cs) chs := by
  induction cs generalizing i with
  | nil => exact ⟨[], .refl i⟩
  | cons cb cs ih =>
    obtain ⟨chs, h⟩ := i.exists_grows_take (w := w) now cb
    obtain ⟨chs', h'⟩ := ih (i.take w now cb)
    exact ⟨chs ++ chs', h.trans h'⟩

end Inlet

end ClusterFeed.Watch
