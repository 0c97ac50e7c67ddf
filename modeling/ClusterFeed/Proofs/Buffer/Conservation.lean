import ClusterFeed.Proofs.Buffer.Counts
import ClusterFeed.Proofs.Buffer.Turns

/-!
# No change is lost and none is sent twice

In every run of a buffer each change that came in is in exactly one place, and what the ledger says
of it is what happened: what waits and what is on its way is what the maps hold, and the other fates
tell in which event the change came to them. An accepted change is never handed over again, and the
counts of the buffer are the numbers of accepted changes.

The events are `record`, the two halves of `flush`, and `set_transport`.
-/

namespace ClusterFeed

open Sync (SyncError)
open Time (Duration)

/-- The sending that ends counts. -/
def Outflow.Event.lands : Outflow.Event → Bool
  | .finish outcome => Buffer.hasLanded outcome
  | _ => false

namespace Ledger

variable {l : Ledger} {o o' : Outflow} {f g : Fate}

/-! ## Counts of accepted changes -/

theorem count_enter (p : Change → Bool) (c : Change) (h : g ≠ f) :
    (l.enter c g).count f p = l.count f p := by
  unfold count enter
  rw [List.countP_append, List.countP_singleton, if_neg, Nat.add_zero]
  simp [h]

theorem count_refate (p : Change → Bool) {r : Line → Fate} (h : ∀ e, r e = f ↔ e.fate = f) :
    (l.refate r).count f p = l.count f p := by
  unfold count refate
  rw [List.countP_map]
  refine List.countP_congr fun e _ => ?_
  simp [h]

/-- Only a sending that ends makes changes accepted. -/
theorem count_accepted_step (p : Change → Bool) {e : Outflow.Event}
    (he : ∀ outcome, e ≠ .finish outcome) : (l.step e).count .accepted p = l.count .accepted p := by
  have hkeep : ∀ {g : Fate} {P : Line → Prop} [DecidablePred P], g ≠ .accepted →
      (∀ e, P e → e.fate = .waiting) →
      (l.refate fun e => if P e then g else e.fate).count .accepted p = l.count .accepted p := by
    intro g P _ hg hP
    refine count_refate p fun e => ?_
    by_cases h : P e
    · rw [if_pos h, hP e h]
      simp [hg]
    · rw [if_neg h]
  cases e with
  | record c =>
    show (l.record c).count .accepted p = _
    unfold record
    split
    · exact count_enter p c (by decide)
    · split
      · exact count_enter p c (by decide)
      · rw [count_enter p c (by decide)]
        exact hkeep (by decide) fun e he => he.1
  | start =>
    show l.start.count .accepted p = _
    unfold start
    split
    · exact hkeep (by decide) fun e he => he
    · exact hkeep (by decide) fun e he => he
  | finish outcome => exact absurd rfl (he outcome)
  | attach on => rfl

/-- The changes on their way that the index took. -/
def landed (l : Ledger) (outcome : Except SyncError Sync.Response) : List Change :=
  (l.lines.filter fun e => e.fate = .underway ∧ Buffer.wasTaken outcome e.change.id).map Line.change

theorem landing_eq_accepted {outcome : Except SyncError Sync.Response} {e : Line} :
    l.landing outcome e = .accepted ↔
      e.fate = .accepted ∨ (e.fate = .underway ∧ Buffer.wasTaken outcome e.change.id) := by
  unfold landing
  by_cases hf : e.fate = .underway
  · rw [if_pos hf]
    by_cases ht : Buffer.wasTaken outcome e.change.id = true
    · simp [hf, ht]
    · by_cases hw : l.Waits e.change.id
      · simp [hf, ht, hw]
      · simp [hf, ht, hw]
  · simp [hf]

theorem count_accepted_finish (l : Ledger) (p : Change → Bool)
    (outcome : Except SyncError Sync.Response) :
    (l.refate (l.landing outcome)).count .accepted p =
      l.count .accepted p + (l.landed outcome).countP p := by
  unfold count landed
  rw [refate, List.countP_map, List.countP_map, List.countP_filter]
  simp only [Function.comp_def, landing_eq_accepted]
  generalize l.lines = lines
  induction lines with
  | nil => rfl
  | cons e es ih =>
    simp only [List.countP_cons, ih]
    generalize List.countP _ es = a
    generalize List.countP _ es = b
    by_cases ha : e.fate = .accepted
    · simp [ha]
      omega
    · by_cases hu : e.fate = .underway
      · simp [hu, and_comm, Nat.add_assoc]
      · simp [ha, hu]

/-- What the index took of the batch is what the ledger says it took. -/
theorem Describes.values_takenPart (h : l.Describes o) {batch : Pending}
    (hu : o.underway = some batch) (outcome : Except SyncError Sync.Response) :
    (Buffer.takenPart outcome batch).values.Perm (l.landed outcome) := by
  have hbatch := h.holds_batch hu
  refine KeyedMap.values_perm Change.id (fun id c hc => ?_) ?_ fun c => ?_
  · rw [Buffer.getElem?_takenPart] at hc
    split at hc
    · exact ((hbatch id c).mp hc).2
    · cases hc
  · unfold landed
    rw [List.pairwise_map]
    have hsub := List.filter_sublist (l := l.lines)
      (p := fun e => decide (e.fate = .underway ∧ Buffer.wasTaken outcome e.change.id))
    refine (h.before.sublist hsub).imp_of_mem fun {a b} ha hb hab hid => ?_
    obtain ⟨-, ha⟩ := List.mem_filter.mp ha
    obtain ⟨-, hb⟩ := List.mem_filter.mp hb
    have hfa := (of_decide_eq_true ha).1
    have hfb := (of_decide_eq_true hb).1
    have hw := (hab hid (.inr hfa) (.inr hfb)).2
    rw [hfb] at hw
    cases hw
  · rw [Buffer.getElem?_takenPart]
    unfold landed
    rw [List.mem_map]
    constructor
    · rintro ⟨⟨c', f⟩, hm, rfl⟩
      obtain ⟨hm, hf⟩ := List.mem_filter.mp hm
      obtain ⟨rfl, ht⟩ := of_decide_eq_true hf
      rw [if_pos ht]
      exact (hbatch _ _).mpr ⟨hm, rfl⟩
    · intro hc
      split at hc
      · rename_i ht
        have hm := ((hbatch c.id c).mp hc).1
        exact ⟨⟨c, .underway⟩, List.mem_filter.mpr ⟨hm, decide_eq_true ⟨rfl, ht⟩⟩, rfl⟩
      · cases hc

/-- The counts of the buffer are those of the ledger. -/
structure Counts (l : Ledger) (es : List Outflow.Event) (b : Buffer) : Prop where
  upserts : b.upserts = l.count .accepted Change.isUpsert
  deletes : b.deletes = l.count .accepted Change.isDelete
  flushes : b.flushes = es.countP Outflow.Event.lands

theorem Counts.of_unchanged {es : List Outflow.Event} {b b' : Buffer} (h : l.Counts es b)
    {e : Outflow.Event} (he : ∀ outcome, e ≠ .finish outcome) (hu : b'.upserts = b.upserts)
    (hd : b'.deletes = b.deletes) (hf : b'.flushes = b.flushes) :
    (l.step e).Counts (es ++ [e]) b' := by
  have hlands : e.lands = false := by
    cases e with
    | finish outcome => exact absurd rfl (he outcome)
    | _ => rfl
  refine ⟨?_, ?_, ?_⟩
  · rw [hu, h.upserts, count_accepted_step _ he]
  · rw [hd, h.deletes, count_accepted_step _ he]
  · rw [hf, h.flushes, List.countP_append, List.countP_singleton, hlands]
    simp

theorem Counts.finish {es : List Outflow.Event} (h : l.Counts es o.buffer) (hd : l.Describes o)
    (hbuilt : ∀ c ∈ l.changes, c.Built) {outcome : Except SyncError Sync.Response}
    (hs : o.step? (.finish outcome) = some o') :
    (l.step (.finish outcome)).Counts (es ++ [.finish outcome]) o'.buffer := by
  obtain ⟨batch, hu, hb, -, -⟩ := Outflow.step?_finish hs
  have hperm := hd.values_takenPart hu outcome
  have hbatch : ∀ (id : String) (c : Change), batch[id]? = some c → c.Built := by
    intro id c hc
    have hm := (hd.holds_batch hu id c).mp hc
    exact hbuilt c (List.mem_map_of_mem hm.1)
  have hfinish : ∀ p, (l.step (.finish outcome)).count .accepted p =
      l.count .accepted p + (Buffer.takenPart outcome batch).values.countP p := by
    intro p
    rw [hperm.countP_eq]
    exact count_accepted_finish l p outcome
  refine ⟨?_, ?_, ?_⟩
  · rw [hb, Buffer.endFlush_upserts hbatch, h.upserts, hfinish]
  · rw [hb, Buffer.endFlush_deletes, h.deletes, hfinish]
  · rw [hb, Buffer.endFlush_flushes, h.flushes, List.countP_append, List.countP_singleton]
    rfl

theorem Counts.step {es : List Outflow.Event} {e : Outflow.Event} (h : l.Counts es o.buffer)
    (hd : l.Describes o) (hbuilt : ∀ c ∈ l.changes, c.Built) (hs : o.step? e = some o') :
    (l.step e).Counts (es ++ [e]) o'.buffer := by
  cases e with
  | record c =>
    cases hs
    obtain ⟨hups, hdels, hflushes⟩ := o.buffer.record_counts c
    exact h.of_unchanged (by simp) hups hdels hflushes
  | start =>
    obtain ⟨-, hb, -⟩ := Outflow.step?_start hs
    exact h.of_unchanged (by simp) (by rw [hb]) (by rw [hb]) (by rw [hb])
  | finish outcome => exact h.finish hd hbuilt hs
  | attach on =>
    cases hs
    exact h.of_unchanged (by simp) rfl rfl rfl

theorem counts_of_run {window : Duration} {attached : Bool} {es : List Outflow.Event}
    (h : (Outflow.new (.new window attached)).run? es = some o)
    (hbuilt : ∀ c ∈ Outflow.recorded es, c.Built) :
    (ofEvents attached es).Counts es o.buffer := by
  refine Outflow.run?_induction
    (motive := fun es o => (∀ c ∈ Outflow.recorded es, c.Built) →
      (ofEvents attached es).Counts es o.buffer)
    (fun _ => ⟨rfl, rfl, rfl⟩) (fun es m e m' hm ih hs hbuilt => ?_) h hbuilt
  have hold : ∀ c ∈ Outflow.recorded es, c.Built := by
    intro c hc
    refine hbuilt c ?_
    unfold Outflow.recorded at hc ⊢
    rw [List.filterMap_append]
    exact List.mem_append_left _ hc
  rw [ofEvents_concat]
  exact (ih hold).step (describes_of_run hm) (by rwa [changes_ofEvents]) hs

/-! ## The places of changes -/

section Places

variable {window : Duration} {attached : Bool} {es : List Outflow.Event} {n : Nat}

theorem existsUnique_fate (h : n < (Outflow.recorded es).length) :
    ∃! f, n ∈ (ofEvents attached es).numbersOf f := by
  rw [← changes_ofEvents attached, changes, List.length_map] at h
  refine ⟨(ofEvents attached es).lines[n].fate, ?_, fun f hf => ?_⟩
  · exact mem_numbersOf.mpr ⟨_, List.getElem?_eq_getElem h⟩
  · obtain ⟨c, hc⟩ := mem_numbersOf.mp hf
    rw [List.getElem?_eq_getElem h, Option.some_inj] at hc
    rw [hc]

theorem numbersOf_dropped_eq_nil (hbuilt : ∀ c ∈ Outflow.recorded es, c.Built) :
    (ofEvents attached es).numbersOf .dropped = [] := by
  refine List.eq_nil_iff_forall_not_mem.mpr fun n hn => ?_
  obtain ⟨c, hc⟩ := mem_numbersOf.mp hn
  obtain ⟨es₁, e, es₂, rfl, hbefore, hturn⟩ := exists_turn hc
  cases hturn with
  | kept h => exact hbefore h
  | dropped _ hid =>
    have hmem : c ∈ Outflow.recorded (es₁ ++ .record c :: es₂) := by simp [Outflow.recorded]
    exact (hbuilt c hmem).id_ne_empty hid

/-- The accepted changes are those that were on their way in a sending and that its outcome says
were taken. -/
theorem mem_accepted_iff :
    n ∈ (ofEvents attached es).numbersOf .accepted ↔
      ∃ es₁ outcome es₂ c, es = es₁ ++ .finish outcome :: es₂ ∧
        n ∈ (ofEvents attached es₁).numbersOf .underway ∧
        (Outflow.recorded es)[n]? = some c ∧ Buffer.wasTaken outcome c.id := by
  constructor
  · intro hmem
    obtain ⟨c, hc⟩ := mem_numbersOf.mp hmem
    obtain ⟨es₁, e, es₂, rfl, hbefore, hturn⟩ := exists_turn hc
    cases hturn with
    | kept h => exact absurd h hbefore
    | taken h ht =>
      exact ⟨es₁, _, es₂, c, rfl, mem_numbersOf.mpr ⟨c, h⟩,
        getElem?_recorded_append (getElem?_recorded.mpr ⟨_, h⟩), ht⟩
  · rintro ⟨es₁, outcome, es₂, c, rfl, hu, hn, ht⟩
    obtain ⟨c', hc'⟩ := mem_numbersOf.mp hu
    rw [getElem?_recorded_append (getElem?_recorded.mpr ⟨_, hc'⟩)] at hn
    cases hn
    refine mem_numbersOf.mpr ⟨c, getElem?_ofEvents_of_settled (by decide) (by decide) ?_⟩
    exact getElem?_refate.mpr ⟨_, hc', landing_eq_accepted.mpr (.inr ⟨rfl, ht⟩)⟩

/-- A superseded change has its place taken by one of its id that came in later. -/
theorem exists_later_of_superseded (hrun : (Outflow.new (.new window attached)).run? es = some o)
    (hsup : n ∈ (ofEvents attached es).numbersOf .superseded) :
    ∃ m c c', n < m ∧ (Outflow.recorded es)[n]? = some c ∧ (Outflow.recorded es)[m]? = some c' ∧
      c.id = c'.id := by
  obtain ⟨c, hc⟩ := mem_numbersOf.mp hsup
  obtain ⟨es₁, e, es₂, rfl, hbefore, hturn⟩ := exists_turn hc
  cases hturn with
  | kept h => exact absurd h hbefore
  | @superseded c' h hid =>
    have hn := getElem?_recorded.mpr ⟨_, h⟩
    refine ⟨(Outflow.recorded es₁).length, c, c', (List.getElem?_eq_some_iff.mp hn).1,
      getElem?_recorded_append hn, ?_, hid⟩
    simp [Outflow.recorded]
  | outdated h _ hw =>
    obtain ⟨m, hm, -⟩ := Outflow.run?_append.mp hrun
    obtain ⟨c', hmem, hid⟩ := waits_iff.mp hw
    obtain ⟨k, hk⟩ := List.mem_iff_getElem?.mp hmem
    exact ⟨k, c, c', (describes_of_run hm).underway_lt_waiting h hk hid.symm,
      getElem?_recorded_append (getElem?_recorded.mpr ⟨_, h⟩),
      getElem?_recorded_append (getElem?_recorded.mpr ⟨_, hk⟩), hid.symm⟩

/-- The ignored changes are the upserts that came in while a delete of their id waited. -/
theorem mem_ignored_iff (hbuilt : ∀ c ∈ Outflow.recorded es, c.Built)
    (hrun : (Outflow.new (.new window attached)).run? es = some o) :
    n ∈ (ofEvents attached es).numbersOf .ignored ↔
      ∃ es₁ c es₂ m old, es = es₁ ++ .record c :: es₂ ∧ n = (Outflow.recorded es₁).length ∧
        c.isUpsert ∧ (Outflow.new (.new window attached)).run? es₁ = some m ∧
        m.buffer.pending[c.id]? = some old ∧ old.isDelete := by
  constructor
  · intro hmem
    obtain ⟨c, hc⟩ := mem_numbersOf.mp hmem
    obtain ⟨es₁, e, es₂, rfl, hbefore, hturn⟩ := exists_turn hc
    cases hturn with
    | kept h => exact absurd h hbefore
    | ignored hn hu hd =>
      obtain ⟨m, hm, -⟩ := Outflow.run?_append.mp hrun
      obtain ⟨old, hold, hid, hdel⟩ := deleteWaits_iff.mp hd
      exact ⟨es₁, c, es₂, m, old, rfl, hn.trans (length_lines attached es₁), hu, hm,
        ((describes_of_run hm).waiting _ _).mpr ⟨hold, hid⟩, hdel⟩
  · rintro ⟨es₁, c, es₂, m, old, rfl, hn, hu, hm, hp, hdel⟩
    rw [← length_lines attached] at hn
    have hd : (ofEvents attached es₁).DeleteWaits c.id := by
      obtain ⟨hmem, hid⟩ := ((describes_of_run hm).waiting _ _).mp hp
      exact deleteWaits_iff.mpr ⟨old, hmem, hid, hdel⟩
    have hne : c.id ≠ "" := (hbuilt c (by simp [Outflow.recorded])).id_ne_empty
    refine mem_numbersOf.mpr ⟨c, getElem?_ofEvents_of_settled (by decide) (by decide) ?_⟩
    show (record _ c).lines[n]? = _
    unfold record
    rw [if_neg hne, if_pos ⟨hu, hd⟩]
    exact getElem?_enter.mpr (.inr ⟨hn, rfl, rfl⟩)

/-- The discarded changes are those that waited when a sending began without an index. -/
theorem mem_discarded_iff (hrun : (Outflow.new (.new window attached)).run? es = some o) :
    n ∈ (ofEvents attached es).numbersOf .discarded ↔
      ∃ es₁ es₂ m, es = es₁ ++ .start :: es₂ ∧ n ∈ (ofEvents attached es₁).numbersOf .waiting ∧
        (Outflow.new (.new window attached)).run? es₁ = some m ∧ m.buffer.attached = false := by
  constructor
  · intro hmem
    obtain ⟨c, hc⟩ := mem_numbersOf.mp hmem
    obtain ⟨es₁, e, es₂, rfl, hbefore, hturn⟩ := exists_turn hc
    cases hturn with
    | kept h => exact absurd h hbefore
    | discarded h ha =>
      obtain ⟨m, hm, -⟩ := Outflow.run?_append.mp hrun
      exact ⟨es₁, es₂, m, rfl, mem_numbersOf.mpr ⟨c, h⟩, hm,
        (describes_of_run hm).attached.trans ha⟩
  · rintro ⟨es₁, es₂, m, rfl, hw, hm, ha⟩
    obtain ⟨c, hc⟩ := mem_numbersOf.mp hw
    rw [(describes_of_run hm).attached] at ha
    refine mem_numbersOf.mpr ⟨c, getElem?_ofEvents_of_settled (by decide) (by decide) ?_⟩
    show (start _).lines[n]? = _
    unfold start
    rw [if_neg (by simp [ha])]
    exact getElem?_refate.mpr ⟨_, hc, if_pos rfl⟩

end Places

/-- What the ledger of a run says, in terms of the run. -/
structure Accounts (window : Duration) (attached : Bool) (es : List Outflow.Event) (o : Outflow) :
    Prop where
  /-- Each change that came in is in exactly one place. -/
  place : ∀ n < (Outflow.recorded es).length, ∃! f, n ∈ (ofEvents attached es).numbersOf f
  /-- The changes that wait are those in the buffer, each under its own id. -/
  waiting : Lists (Outflow.recorded es) o.buffer.pending ((ofEvents attached es).numbersOf .waiting)
  /-- The changes that are on their way are those in the batch. -/
  underway : Lists (Outflow.recorded es) (o.underway.getD ∅)
    ((ofEvents attached es).numbersOf .underway)
  /-- A change is accepted in the sending that it was on its way in. -/
  accepted : ∀ n, n ∈ (ofEvents attached es).numbersOf .accepted ↔
    ∃ es₁ outcome es₂ c, es = es₁ ++ .finish outcome :: es₂ ∧
      n ∈ (ofEvents attached es₁).numbersOf .underway ∧
      (Outflow.recorded es)[n]? = some c ∧ Buffer.wasTaken outcome c.id
  /-- A superseded change gave way to a later one of its id. -/
  superseded : ∀ n ∈ (ofEvents attached es).numbersOf .superseded, ∃ m c c', n < m ∧
    (Outflow.recorded es)[n]? = some c ∧ (Outflow.recorded es)[m]? = some c' ∧ c.id = c'.id
  /-- A change is ignored if it is an upsert and comes in behind a delete of its id. -/
  ignored : ∀ n, n ∈ (ofEvents attached es).numbersOf .ignored ↔
    ∃ es₁ c es₂ m old, es = es₁ ++ .record c :: es₂ ∧ n = (Outflow.recorded es₁).length ∧
      c.isUpsert ∧ (Outflow.new (.new window attached)).run? es₁ = some m ∧
      m.buffer.pending[c.id]? = some old ∧ old.isDelete
  /-- A change is discarded if it waits when a sending begins without an index. -/
  discarded : ∀ n, n ∈ (ofEvents attached es).numbersOf .discarded ↔
    ∃ es₁ es₂ m, es = es₁ ++ .start :: es₂ ∧ n ∈ (ofEvents attached es₁).numbersOf .waiting ∧
      (Outflow.new (.new window attached)).run? es₁ = some m ∧ m.buffer.attached = false
  /-- No change that came in is in any other place. -/
  dropped : (ofEvents attached es).numbersOf .dropped = []
  /-- The batches that were handed over are those of the ledger. -/
  sent : List.Forall₂ (Lists (Outflow.recorded es)) o.sent (ofEvents attached es).batches
  /-- What was accepted in a part of the run is in none of the batches that follow. -/
  once : ∀ es₁ es₂, es = es₁ ++ es₂ →
    ∃ later, (ofEvents attached es).batches = (ofEvents attached es₁).batches ++ later ∧
      ∀ n ∈ (ofEvents attached es₁).numbersOf .accepted, ∀ ns ∈ later, n ∉ ns
  /-- The counts are the numbers of accepted changes and of sendings that landed. -/
  counts : (ofEvents attached es).Counts es o.buffer

/-- No change is lost and none is sent twice. -/
theorem accounts_of_run (window : Duration) (attached : Bool) (es : List Outflow.Event)
    (o : Outflow) (hbuilt : ∀ c ∈ Outflow.recorded es, c.Built)
    (hrun : (Outflow.new (.new window attached)).run? es = some o) :
    Accounts window attached es o := by
  have hd := describes_of_run hrun
  have hchanges := changes_ofEvents attached es
  refine ⟨fun n hn => existsUnique_fate hn, ?_, ?_, fun n => mem_accepted_iff,
    fun n hn => exists_later_of_superseded hrun hn, fun n => mem_ignored_iff hbuilt hrun,
    fun n => mem_discarded_iff hrun, numbersOf_dropped_eq_nil hbuilt, ?_, ?_,
    counts_of_run hrun hbuilt⟩
  · rw [← hchanges]
    exact hd.lists hd.waiting (.inl rfl)
  · rw [← hchanges]
    exact hd.lists hd.underway (.inr rfl)
  · rw [← hchanges]
    exact sent_of_run hrun
  · rintro es₁ es₂ rfl
    obtain ⟨later, hlater, hgone⟩ := batches_of_gone hrun
    refine ⟨later, hlater, fun n hn => (hgone n ?_).2⟩
    obtain ⟨c, hc⟩ := mem_numbersOf.mp hn
    exact ⟨c, _, hc, by decide, by simp⟩

theorem accounts_of_variedRun :
    (∀ c ∈ Outflow.recorded variedRun, c.Built) ∧
      (ofEvents true variedRun).lines.map Line.fate =
        [.accepted, .ignored, .superseded, .accepted, .discarded, .underway, .waiting] ∧
      ∃ o, (Outflow.new (.new ⟨0⟩ true)).run? variedRun = some o ∧
        Accounts ⟨0⟩ true variedRun o := by
  have hbuilt : ∀ c ∈ Outflow.recorded variedRun, c.Built := by
    simp [variedRun, Outflow.recorded, Change.Built]
  have hsome : ((Outflow.new (.new ⟨0⟩ true)).run? variedRun).isSome := by decide +kernel
  obtain ⟨o, hrun⟩ := Option.isSome_iff_exists.mp hsome
  exact ⟨hbuilt, by decide +kernel, o, hrun,
    accounts_of_run ⟨0⟩ true variedRun o hbuilt hrun⟩

end Ledger

end ClusterFeed
