import ClusterFeed.Proofs.Control.Ensuring
import ClusterFeed.Proofs.Control.Strays

/-!
# Feeds that are replaced

When a feed is replaced its loop is told to stop, and the new feed takes nothing over from it. The
loop still waits for the answer to the batch that is on its way. What is in its queue then, and what
waits in its buffer, is thrown away.

An upsert that is lost in this way is made up for by the first lists of the new informers. A delete
is not: the new informers never knew the object, and have nothing to tell about it. So a delete that
came into the queue of the old feed is taken by the index, has given way to a newer change of its
id, or is lost.

A feed is replaced by `ensure_running`, with a `shutdown` of the old one that makes no last flush.
-/

namespace ClusterFeed

open Sync (SyncError)
open Time (Instant)
open Watch (Informer Callback)

/-! ## The end of a loop -/

namespace Ledger

variable {attached : Bool} {es : List Outflow.Event}

theorem attached_ofEvents (hes : ∀ on, .attach on ∉ es) :
    (ofEvents attached es).attached = attached := by
  induction es using List.reverseRecOn with
  | nil => rfl
  | append_singleton es e ih =>
    rw [ofEvents_concat, attached_step _ fun on he => hes on (by simp [he])]
    exact ih fun on hon => hes on (List.mem_append_left _ hon)

/-- A delete with an id that came in when there was an index was taken, has given way to another
change of its id, or still is where it can be sent from. -/
theorem fate_of_delete (hes : ∀ on, .attach on ∉ es) {c : Change} {f : Fate}
    (h : ⟨c, f⟩ ∈ (ofEvents true es).lines) (hdelete : c.isDelete = true) (hid : c.id ≠ "") :
    f = .accepted ∨ f = .superseded ∨ f = .waiting ∨ f = .underway := by
  obtain ⟨n, hn⟩ := List.mem_iff_getElem?.mp h
  obtain ⟨es₁, e, es₂, rfl, hbefore, hturn⟩ := exists_turn hn
  cases hturn with
  | kept hold => exact absurd hold hbefore
  | dropped _ hno => exact absurd hno hid
  | ignored _ hu =>
    rw [Change.isDelete_eq_not_isUpsert, hu] at hdelete
    cases hdelete
  | entered => exact .inr (.inr (.inl rfl))
  | superseded => exact .inr (.inl rfl)
  | handedOver => exact .inr (.inr (.inr rfl))
  | discarded _ hno =>
    -- a batch is thrown away only where there is no index
    rw [attached_ofEvents fun on hon => hes on (List.mem_append_left _ hon)] at hno
    cases hno
  | taken => exact .inl rfl
  | outdated => exact .inr (.inl rfl)
  | putBack => exact .inr (.inr (.inl rfl))

end Ledger

namespace Duty

variable {b : Buffer} {q : Intake} {now : Nat} {es : List Event} {x y : Duty}

/-- What has become of the deletes that came into the queue of a loop with an index, when it has
ended. -/
structure Retired (b : Buffer) (x : Duty) : Prop where
  /-- The log is what was done to the buffer. -/
  flow : ∃ sent, (Outflow.new b).run? x.log = some (x.loop.outflow sent)
  /-- Of the changes that came into the queue some have come into the buffer, and the others are
  still in the queue. -/
  arrived : x.arrived = (Ledger.ofEvents true x.log).changes ++ x.loop.intake.items
  /-- A delete that came into the buffer was taken by the index, has given way to a newer change of
  its id, or still waits in the buffer. -/
  fates : ∀ e ∈ (Ledger.ofEvents true x.log).lines, e.change.isDelete = true →
    e.fate = .accepted ∨ e.fate = .superseded ∨
      (e.fate = .waiting ∧ x.loop.buffer.pending[e.change.id]? = some e.change)

/-- The changes of a queue that is fed by the rules have ids. -/
theorem built_of_run (hq : q.items = []) (hes : ∀ e ∈ es, e.Regular)
    (hrun : (opening b q now).run? es = some x) : ∀ c ∈ x.arrived, c.Built := by
  refine Runs.induction (motive := fun es x => (∀ e ∈ es, e.Regular) → ∀ c ∈ x.arrived, c.Built)
    (fun _ c hc => ?_) (fun es m e m' _ hm hs hes => ?_) hrun hes
  · rw [opening, hq] at hc
    cases hc
  · have hbefore := hm fun e he => hes e (List.mem_append_left _ he)
    have he : e.Regular := hes e (List.mem_append_right _ (List.mem_singleton_self e))
    cases e with
    | arrive c =>
      dsimp only [step?] at hs
      split at hs
      · cases hs
      · obtain ⟨q, hq, rfl⟩ := Option.map_eq_some_iff.mp hs
        intro c' hc'
        rcases List.mem_append.mp hc' with hc' | hc'
        · exact hbefore c' hc'
        · rw [List.mem_singleton.mp hc']
          exact he
    | turn =>
      obtain ⟨l, hl, rfl⟩ := Option.map_eq_some_iff.mp hs
      exact hbefore
    | answer outcome =>
      obtain ⟨batch, hb, rfl⟩ := Option.map_eq_some_iff.mp hs
      exact hbefore
    | _ =>
      cases hs
      exact hbefore

/-- Nothing that happens to a loop attaches an index to its buffer or removes one. -/
theorem steady_of_run (hrun : (opening b q now).run? es = some x) : ∀ on, .attach on ∉ x.log := by
  refine Runs.induction (motive := fun _ x => ∀ on, .attach on ∉ x.log)
    (fun on => List.not_mem_nil) (fun es m e m' _ hm hs => ?_) hrun
  cases e with
  | arrive c =>
    dsimp only [step?] at hs
    split at hs
    · cases hs
    · obtain ⟨q, hq, rfl⟩ := Option.map_eq_some_iff.mp hs
      exact hm
  | turn =>
    obtain ⟨l, hl, rfl⟩ := Option.map_eq_some_iff.mp hs
    intro on hon
    rcases List.mem_append.mp hon with hon | hon
    · exact hm on hon
    · exact (FlushLoop.turned_of_turn? hl).2.steady on hon
  | answer outcome =>
    obtain ⟨batch, hb, rfl⟩ := Option.map_eq_some_iff.mp hs
    intro on hon
    simpa using (List.mem_append.mp hon).resolve_left (hm on)
  | aside c =>
    cases hs
    intro on hon
    simpa using (List.mem_append.mp hon).resolve_left (hm on)
  | _ =>
    cases hs
    exact hm

/-- A loop that was fed by the rules and has ended leaves no delete behind but in its queue and its
buffer. -/
theorem retired_of_run {window : Time.Duration} (hq : q.items = []) (hes : ∀ e ∈ es, e.Regular)
    (hrun : (opening (.new window true) q now).run? es = some x)
    (hended : x.loop.isEnded = true) : x.Retired (.new window true) := by
  have hkept := kept_of_run hrun
  have haside : ∀ c, .aside c ∉ es := fun c hc => hes _ hc
  have hrecorded := recorded_of_run hrun haside
  obtain ⟨sent, hflow⟩ := hkept.flow
  have hdescribes := Ledger.describes_of_run hflow
  have hchanges : (Ledger.ofEvents true x.log).changes = x.read :=
    (Ledger.changes_ofEvents true x.log).trans hrecorded
  have harrived : x.arrived = (Ledger.ofEvents true x.log).changes ++ x.loop.intake.items := by
    rw [hchanges]
    exact hkept.arrived
  refine ⟨⟨sent, hflow⟩, harrived, fun ⟨c, f⟩ he hdelete => ?_⟩
  have hmem : c ∈ x.arrived := by
    rw [harrived]
    exact List.mem_append_left _ (List.mem_map.mpr ⟨_, he, rfl⟩)
  have hid := (built_of_run hq hes hrun c hmem).id_ne_empty
  rcases Ledger.fate_of_delete (steady_of_run hrun) he hdelete hid with rfl | rfl | rfl | rfl
  · exact .inl rfl
  · exact .inr (.inl rfl)
  · exact .inr (.inr ⟨rfl, (hdescribes.waiting c.id c).mpr ⟨he, rfl⟩⟩)
  · exact absurd he (hdescribes.not_underway (FlushLoop.underway?_of_ended hended) c)

end Duty

/-! ## The life of a feed is the duty of its loop -/

namespace Control.Feed

variable {σ : Type} {f f' : Feed} {o : Outside σ} {opts : Options} {scope : String}
  {settings : Settings} {types : List WatchedType}

/-- The loop of a feed when it begins. -/
def firstLoop (opts : Options) (settings : Settings) (began : Nat) : FlushLoop :=
  .start (.new settings.debounce settings.hasTarget) (.new (max opts.queueCapacity 1)) began

/-- A loop that has come by the rules so far does so when its queue is closed and it settles. -/
theorem comes_settle {l : FlushLoop} (h : Duty.Comes l f.loop) (send : Option (Send σ)) (s : σ) :
    Duty.Comes l (f.closeIfAbandoned.settle send s).1.loop :=
  (h.trans (comes_closeIfAbandoned f)).trans
    (Duty.comes_settle (sendOrRefuse send) f.closeIfAbandoned.loop.turnsLeft _ s)

/-- All through the life of a feed its loop comes by the rules to be as it is. -/
theorem Life.comes (h : Life o opts scope settings types f) :
    ∃ began, Duty.Comes (firstLoop opts settings began) f.loop := by
  induction h with
  | start now s =>
    have hasked := (steady_askAll o (transport o opts scope settings) Informer.maxRequests
      (types.map .start) s (f := empty opts scope settings now)
      (FlushLoop.sound_start settings.debounce settings.hasTarget (max opts.queueCapacity 1)
        now)).comes
    refine ⟨now, comes_settle ?_ _ _⟩
    rw [loop_foldl_put]
    exact hasked
  | @notify f h path notices s ih =>
    obtain ⟨began, hcomes⟩ := ih
    have hstrays := steady_hearStrays h.staffed.loop path notices (o.now s)
    have hplaced := steady_hearPlaced hstrays.loop path notices (o.now s)
    exact ⟨began, comes_settle ((hcomes.trans hstrays.comes).trans hplaced.comes) _ s⟩
  | @resume f h place s ih =>
    obtain ⟨began, hcomes⟩ := ih
    unfold Feed.resume
    split
    · exact ⟨began, hcomes⟩
    · rename_i i _
      have hseat := steady_seat h.staffed.loop (i.resume o.cluster s).2.1 place
      exact ⟨began, comes_settle ((hcomes.trans hseat.comes).trans (comes_deliver _ _ _ _)) _ _⟩
  | @wake f h now hnow s ih =>
    -- the clock is set forward, which is as much time as has passed
    obtain ⟨began, hcomes⟩ := ih
    have hpass : f.loop.advance (now - f.loop.now) = { f.loop with now } := by
      unfold FlushLoop.advance
      rw [Nat.add_sub_cancel' hnow]
    have hwoken : Duty.Comes f.loop { f.loop with now } := hpass ▸ Duty.comes_advance f.loop _
    have hend := (hcomes.trans hwoken).trans (Duty.comes_settle
      (sendOrRefuse (transport o opts f.scope f.settings)) { f.loop with now }.turnsLeft _ s)
    refine ⟨began, ?_⟩
    unfold Feed.wake
    dsimp only
    split
    · split <;> exact hend
    · exact hend

end Control.Feed

/-! ## A feed that starts has nothing to delete -/

namespace FlushLoop

variable {l l' : FlushLoop}

/-- In the queue, in the buffer and on the way there are snapshots only. -/
structure Fresh (l : FlushLoop) : Prop where
  queue : ∀ c ∈ l.intake.items, c.isUpsert = true
  pending : ∀ (id : String) (c : Change), l.buffer.pending[id]? = some c → c.isUpsert = true
  underway : ∀ batch, l.underway? = some batch → ∀ (id : String) (c : Change),
    batch[id]? = some c → c.isUpsert = true

theorem fresh_start (window : Time.Duration) (attached : Bool) (capacity now : Nat) :
    (start (.new window attached) (.new capacity) now).Fresh := by
  refine ⟨fun c hc => (nomatch hc), fun id c hc => ?_, fun batch hb => (nomatch hb)⟩
  have hnone : (∅ : Pending)[id]? = some c := hc
  rw [Std.ExtTreeMap.getElem?_empty] at hnone
  cases hnone

theorem Fresh.turn (h : l.Fresh) (hl : l.turn? = some l') : l'.Fresh := by
  obtain ⟨hphase, hturned⟩ := turned_of_turn? hl
  generalize l.deed? = d at hturned
  cases hturned with
  | stopped => exact ⟨h.queue, h.pending, fun batch hb => (nomatch hb)⟩
  | closed => exact ⟨h.queue, h.pending, fun batch hb => (nomatch hb)⟩
  | @read c cs _ hitems =>
    have hqueue := h.queue
    rw [hitems] at hqueue
    refine ⟨fun c' hc' => hqueue c' (List.mem_cons_of_mem _ hc'), fun id c' hc' => ?_,
      fun batch hb => ?_⟩
    · have hc' : (l.buffer.record c).pending[id]? = some c' := hc'
      rw [Buffer.getElem?_record] at hc'
      split at hc'
      · cases hc'
        unfold Change.onto
        split
        · cases hold : l.buffer.pending[id]? with
          | none => exact hqueue c List.mem_cons_self
          | some old => exact h.pending id old hold
        · exact hqueue c List.mem_cons_self
      · exact h.pending id c' hc'
    · rw [underway?_eq_some_iff] at hb
      exact absurd (hphase.symm.trans hb) nofun
  | began =>
    rw [tick_eq hphase]
    refine ⟨h.queue, fun id c hc => ?_, fun batch hb => ?_⟩
    · have hnone : (∅ : Pending)[id]? = some c := hc
      rw [Std.ExtTreeMap.getElem?_empty] at hnone
      cases hnone
    · have hsending := underway?_eq_some_iff.mp hb
      dsimp only at hsending
      split at hsending
      · cases hsending
      · -- the batch is what waited before
        cases hsending
        exact h.pending

theorem Fresh.answer (h : l.Fresh) {batch : Pending} (hb : l.underway? = some batch)
    (outcome : Except SyncError Sync.Response) : (l.answer outcome).Fresh := by
  rw [answer_eq hb]
  refine ⟨h.queue, fun id c hc => ?_, fun batch hb => (nomatch hb)⟩
  have hc : (l.buffer.endFlush batch outcome).2.pending[id]? = some c := hc
  rw [Buffer.getElem?_endFlush, Option.or_eq_some_iff] at hc
  rcases hc with hc | ⟨-, hc⟩
  · exact h.pending id c hc
  · split at hc
    · cases hc
    · exact h.underway batch hb id c hc

theorem Fresh.settle {σ : Type} (h : l.Fresh)
    (send : Sync.Request → σ → Except SyncError Sync.Response × σ) (fuel : Nat) (s : σ) :
    (l.settle send [] fuel s).1.Fresh :=
  settle_keeps (fun _ _ hm hl => hm.turn hl) (fun _ _ outcome hm hb => hm.answer hb outcome) send
    fuel l s h

end FlushLoop

namespace Watch

variable {w : WatchedType}

/-- Where nothing is gone only snapshots come into the queue. -/
theorem Inlet.mem_take {i : Inlet} {now : Instant} {cb : Callback} (hcb : cb.isDelete = false)
    {c : Change} (h : c ∈ (i.take w now cb).intake.items) :
    c ∈ i.intake.items ∨ c.isUpsert = true := by
  have htaken := Inlet.taken_take w now i cb
  generalize i.take w now cb = i' at htaken h
  cases htaken with
  | queued c' hchange =>
    rcases List.mem_append.mp h with h | h
    · exact .inl h
    · rcases upsert_or_delete hchange with ⟨-, s, rfl⟩ | ⟨hdelete, -⟩
      · rw [List.mem_singleton.mp h]
        exact .inr rfl
      · cases hcb.symm.trans hdelete
  | passed => exact .inl h
  | lost => exact .inl h
  | lostTwice => exact .inl h

theorem Inlet.mem_takeAll {i : Inlet} {now : Instant} {cs : List Callback}
    (hcs : ∀ cb ∈ cs, cb.isDelete = false) {c : Change}
    (h : c ∈ (i.takeAll w now cs).intake.items) : c ∈ i.intake.items ∨ c.isUpsert = true := by
  induction cs generalizing i with
  | nil => exact .inl h
  | cons cb cs ih =>
    rcases ih (fun cb' hcb' => hcs cb' (List.mem_cons_of_mem _ hcb')) h with hc | hc
    · exact Inlet.mem_take (hcs cb List.mem_cons_self) hc
    · exact .inr hc

namespace Informer

/-- As long as the informer asks for its list it has not seen anything. -/
def Blank (i : Informer) : Prop := ∀ before, i.phase = .listing before → i.cache = ∅

theorem blank_start (w : WatchedType) : (Informer.start w).Blank := fun _ _ => rfl

theorem isDelete_of_dispatch {ms : List Cluster.Manifest} {cs : List Callback} {cache : Cache}
    (h : dispatch? ∅ (.restarted ms) = some (cs, cache)) : ∀ cb ∈ cs, cb.isDelete = false := by
  intro cb hcb
  cases dispatched h with
  | restarted hes =>
    rcases List.mem_append.mp hcb with hcb | hcb
    -- only what was in the cache can be missing from the list
    · obtain ⟨m, hm, rfl⟩ := List.mem_map.mp hcb
      obtain ⟨k, hk, -⟩ := mem_missing.mp hm
      rw [Std.ExtTreeMap.getElem?_empty] at hk
      cases hk
    · obtain ⟨e, he, rfl⟩ := List.mem_map.mp hcb
      unfold Cache.report
      split <;> rfl

/-- The first list of an informer tells of nothing that is gone. -/
theorem Blank.onPage {i : Informer} (h : i.Blank) (page : Option (Cluster.Page Cluster.Manifest)) :
    (∀ cb ∈ (i.onPage page).1, cb.isDelete = false) ∧ (i.onPage page).2.Blank := by
  unfold Informer.onPage
  split
  · rename_i before hphase
    have hempty := h before hphase
    cases page with
    | none => exact ⟨fun _ hcb => (nomatch hcb), fun _ hl => (nomatch hl)⟩
    | some p =>
      dsimp only
      split
      · exact ⟨fun _ hcb => (nomatch hcb), fun _ _ => hempty⟩
      · split
        · unfold handle
          split
          · rename_i cs cache hd
            rw [hempty] at hd
            exact ⟨isDelete_of_dispatch hd, fun _ hl => (nomatch hl)⟩
          · exact ⟨fun _ hcb => (nomatch hcb), fun _ hl => (nomatch hl)⟩
        · exact ⟨fun _ hcb => (nomatch hcb), fun _ hl => (nomatch hl)⟩
  · exact ⟨fun _ hcb => (nomatch hcb), h⟩

theorem Blank.ask {σ : Type} {i : Informer} (h : i.Blank) (c : Cluster.Access σ) (s : σ) :
    (∀ cb ∈ (i.ask c s).1, cb.isDelete = false) ∧ (i.ask c s).2.1.Blank := by
  unfold Informer.ask
  split
  · exact h.onPage _
  · rename_i hphase
    refine ⟨fun _ hcb => (nomatch hcb), fun before hl => ?_⟩
    unfold onOpened at hl
    rw [hphase] at hl
    dsimp only at hl
    split at hl <;> cases hl
  · exact ⟨fun _ hcb => (nomatch hcb), h⟩

end Informer

end Watch

namespace Control

namespace Feed

variable {σ : Type} {f : Feed}

theorem fresh_deliver (h : f.loop.Fresh) (w : WatchedType) (now : Instant) {cs : List Callback}
    (hcs : ∀ cb ∈ cs, cb.isDelete = false) : (f.deliver w now cs).loop.Fresh := by
  refine ⟨fun c hc => ?_, h.pending, h.underway⟩
  rcases Watch.Inlet.mem_takeAll hcs hc with hc | hc
  · have hitems : f.inlet.intake.items = f.loop.intake.items := queue_inlet f
    rw [hitems] at hc
    exact h.queue c hc
  · exact hc

theorem fresh_settle (h : f.loop.Fresh) (send : Option (Send σ)) (s : σ) :
    (f.settle send s).1.loop.Fresh :=
  FlushLoop.Fresh.settle h (sendOrRefuse send) f.loop.turnsLeft s

theorem askOnce_fresh (o : Outside σ) {is : List Informer} (s : σ) (h : f.loop.Fresh)
    (his : ∀ i ∈ is, i.Blank) :
    (askOnce o is f s).2.1.loop.Fresh ∧ ∀ i ∈ (askOnce o is f s).1, i.Blank := by
  induction is generalizing f s with
  | nil => exact ⟨h, his⟩
  | cons i is ih =>
    obtain ⟨hcs, hblank⟩ := (his i List.mem_cons_self).ask o.cluster s
    have hone := fresh_deliver h (i.ask o.cluster s).2.1.resource
      (o.now (i.ask o.cluster s).2.2) hcs
    obtain ⟨hfresh, hrest⟩ := ih (i.ask o.cluster s).2.2 hone
      fun j hj => his j (List.mem_cons_of_mem _ hj)
    refine ⟨hfresh, fun j hj => ?_⟩
    rcases List.mem_cons.mp hj with rfl | hj
    · exact hblank
    · exact hrest j hj

theorem askAll_fresh (o : Outside σ) (send : Option (Send σ)) (fuel : Nat) {is : List Informer}
    (s : σ) (h : f.loop.Fresh) (his : ∀ i ∈ is, i.Blank) :
    (askAll o send fuel is f s).2.1.loop.Fresh := by
  induction fuel generalizing is f s with
  | zero => exact h
  | succ fuel ih =>
    unfold askAll
    split
    · obtain ⟨hasked, hblank⟩ := askOnce_fresh o s h his
      exact ih _ (fresh_settle hasked send _) hblank
    · exact h

/-- A feed that has just been started has no delete anywhere. -/
theorem start_fresh (o : Outside σ) (opts : Options) (scope : String) (settings : Settings)
    (types : List WatchedType) (now : Nat) (s : σ) :
    (start o opts scope settings types now s).1.loop.Fresh := by
  have hblank : ∀ i ∈ types.map Informer.start, i.Blank := by
    intro i hi
    obtain ⟨w, -, rfl⟩ := List.mem_map.mp hi
    exact Informer.blank_start w
  have hasked := askAll_fresh o (transport o opts scope settings) Informer.maxRequests s
    (f := empty opts scope settings now)
    (FlushLoop.fresh_start settings.debounce settings.hasTarget (max opts.queueCapacity 1) now)
    hblank
  set asked := askAll o (transport o opts scope settings) Informer.maxRequests
    (types.map .start) (empty opts scope settings now) s
  have hput : (asked.1.foldl put asked.2.1).loop.Fresh := by
    rw [loop_foldl_put]
    exact hasked
  have hclosed : (asked.1.foldl put asked.2.1).closeIfAbandoned.loop.Fresh := by
    unfold closeIfAbandoned
    split
    · exact hput
    · exact ⟨hput.queue, hput.pending, hput.underway⟩
  exact fresh_settle hclosed (transport o opts scope settings) asked.2.2

/-- What becomes of a feed with an index and its loop when another feed takes its place. -/
structure Renewed (opts : Options) (settings : Settings) (f f' : Feed) : Prop where
  /-- From its beginning the loop has been fed by its informers alone. -/
  served : ∃ (began : Nat) (es : List Duty.Event) (x : Duty), (∀ e ∈ es, e.Ordinary) ∧
    (Duty.opening (.new settings.debounce true) (.new (max opts.queueCapacity 1)) began).run? es =
      some x ∧ x.loop = f.loop
  /-- However the loop has come to be as it is, and whatever still happens when it is told to stop:
  each delete that came into its queue is taken by the index, gives way to a newer change of its id,
  or is left in the queue or in the buffer when the loop has ended. -/
  retired : ∀ (began : Nat) (es es' : List Duty.Event) (x y : Duty), (∀ e ∈ es, e.Ordinary) →
    (Duty.opening (.new settings.debounce true) (.new (max opts.queueCapacity 1)) began).run? es =
      some x → x.loop = f.loop → (∀ e ∈ es', e.Regular) → x.run? es' = some y →
    y.loop.isEnded = true → y.Retired (.new settings.debounce true)
  /-- What is left is lost: the new feed begins with an empty queue and an empty buffer, and its
  first lists tell of snapshots only. -/
  fresh : f'.loop.Fresh

end Feed

namespace Manager

open Feed (Life Renewed)

variable {σ : Type}

/-- Only where there was a feed it can be replaced. -/
theorem exists_feed_of_restarted {o : Outside σ} {m m' : Manager} {key scope : String}
    {settings : Settings} {s s' : σ}
    (h : m.ensure o key scope settings s = ((.ok .restarted, m'), s')) :
    ∃ f, m.feeds[key]? = some f := by
  have hensures := ensure_ensures o m key scope settings s
  rw [h] at hensures
  cases hf : m.feeds[key]? with
  | some f => exact ⟨f, rfl⟩
  | none =>
    cases hreached : (m.answers o settings s).reached with
    | error e => cases (hensures.unreached e hreached).1
    | ok u =>
      have hstarted := (hensures.absent hreached hf).1
      unfold Answers.outcome at hstarted
      split at hstarted <;> cases hstarted

/-- When the feed under a key is replaced, no delete that came into the queue of the old one is
carried over. -/
theorem renewed_of_ensure {o : Outside σ} {m m' : Manager} {key scope scope' : String}
    {settings settings' : Settings} {types : List WatchedType} {s s' : σ}
    (hlife : ∀ f, m.feeds[key]? = some f → Life o m.options scope settings types f)
    (htarget : settings.hasTarget = true)
    (h : m.ensure o key scope' settings' s = ((.ok .restarted, m'), s')) :
    ∃ f f', m.feeds[key]? = some f ∧ m'.feeds[key]? = some f' ∧
      Renewed m.options settings f f' := by
  obtain ⟨f, hf⟩ := exists_feed_of_restarted h
  have hran := (ensure_ensures o m key scope' settings' s).ran .restarted
  rw [h] at hran
  obtain ⟨types', -, hnew⟩ := hran rfl (by decide)
  refine ⟨f, _, hf, hnew.feed, ?_, ?_, Feed.start_fresh _ _ _ _ _ _ _⟩
  · obtain ⟨began, hcomes⟩ := (hlife f hf).comes
    unfold Feed.firstLoop at hcomes
    rw [htarget] at hcomes
    obtain ⟨es, x, hes, hrun, hx⟩ := hcomes (Duty.opening (.new settings.debounce true)
      (.new (max m.options.queueCapacity 1)) began) rfl
    exact ⟨began, es, x, hes, hrun, hx⟩
  -- what happens before and after the loop is told to stop is one run of it
  · intro began es es' x y hes hrun _ hes' hrun' hended
    have hall : ∀ e ∈ es ++ es', e.Regular := fun e he =>
      (List.mem_append.mp he).elim (fun he => (hes e he).1) (hes' e)
    exact Duty.retired_of_run rfl hall (Runs.append_eq_some_iff.mpr ⟨x, hrun, hrun'⟩) hended

/-! ### A pod that is gone when its feed is replaced -/

/-- The answer to a list request: one pod the first time, and none afterwards. -/
def podPage (asked : Nat) : String :=
  let items := if asked = 0 then
      "\x7b\"metadata\":\x7b\"name\":\"web\",\"namespace\":\"default\"," ++
        "\"resourceVersion\":\"4\"\x7d\x7d"
    else ""
  "\x7b\"metadata\":\x7b\"resourceVersion\":\"5\"\x7d,\"items\":[" ++ items ++ "]\x7d"

/-- A cluster with a pod that vanishes. The world counts the lists that were asked for and the
requests that were sent to the index. -/
def vanishing : Outside (Nat × Nat) where
  cluster := ⟨fun _ s => (⟨200, podPage s.1⟩, (s.1 + 1, s.2)), fun _ s => (⟨503, ""⟩, s),
    fun _ s => (true, s)⟩
  index := ⟨fun _ => false, fun _ _ _ s => (.ok ⟨true, none, none⟩, (s.1, s.2 + 1)),
    fun s => (default, s), fun _ s => (false, s)⟩
  connect := fun s => (.ok (), s)
  prepare := fun _ s => (.ok (), s)
  now := fun _ => ⟨0, 0⟩

/-- The settings of a feed that sends once in so many seconds. -/
def everySeconds (n : Nat) : Settings := ⟨"http://index", .ofSeconds n, ⟨0⟩, none⟩

/-- The pod as the watch tells that it is gone. -/
def gonePod : Cluster.Manifest :=
  ⟨none, { Cluster.Metadata.empty with
    name := some "web", scope := some "default", resourceVersion := some "6" }, .obj []⟩

/-- The type of pods. -/
def podType : WatchedType := ⟨⟨"", "v1", "pods"⟩, "Pod", true⟩

/-- A feed for pods that has been started. -/
def podFeed : Feed × Nat × Nat :=
  Feed.start vanishing .usual "default" (everySeconds 10) [podType] 0 (0, 0)

/-- Its informer has heard that the pod is gone. -/
def podGone : Feed × Nat × Nat :=
  podFeed.1.notify vanishing .usual "/api/v1/pods" [.deleted gonePod] podFeed.2

/-- The feed runs under a key. -/
def podManager : Manager := (Manager.pin (.new .usual) [podType]).install "default/cfg" podGone.1

/-- The settings change. -/
def podRestart : (Except ControlError StartOutcome × Manager) × Nat × Nat :=
  podManager.ensure vanishing "default/cfg" "default" (everySeconds 20) podGone.2

theorem life_podGone : Life vanishing podManager.options "default" (everySeconds 10) [podType]
    podGone.1 := (Life.start 0 (0, 0)).notify _ _ _

theorem feed_podManager : podManager.feeds["default/cfg"]? = some podGone.1 :=
  Std.ExtTreeMap.getElem?_insert_self

/-- How the restart ends: no request has been sent, and the new feed holds nothing yet. -/
theorem blank_podRestart : (podRestart.1.1.toOption == some .restarted && podRestart.2.2 == 0 &&
    podRestart.1.2.feeds["default/cfg"]?.any fun f' => f'.loop.intake.items.isEmpty &&
      f'.loop.buffer.pending.isEmpty && f'.loop.underway?.isNone) = true := by
  decide +kernel

theorem restarted_podRestart : podRestart.1.1 = .ok .restarted := by
  have hblank := blank_podRestart
  rw [Bool.and_eq_true, Bool.and_eq_true] at hblank
  obtain ⟨⟨hoption, -⟩, -⟩ := hblank
  cases h : podRestart.1.1 with
  | error e =>
    rw [h] at hoption
    cases hoption
  | ok outcome =>
    rw [h] at hoption
    exact congrArg Except.ok (Option.some.inj (eq_of_beq hoption))

theorem renewed_podRestart :
    Life vanishing podManager.options "default" (everySeconds 10) [podType] podGone.1 ∧
      (everySeconds 10).hasTarget = true ∧ podRestart.1.1 = .ok .restarted ∧
      ∃ f f', podManager.feeds["default/cfg"]? = some f ∧
        podRestart.1.2.feeds["default/cfg"]? = some f' ∧
        Renewed podManager.options (everySeconds 10) f f' := by
  have htarget : (everySeconds 10).hasTarget = true := by decide
  have hparts : ∀ r : (Except ControlError StartOutcome × Manager) × Nat × Nat,
      r.1.1 = .ok .restarted → r = ((.ok .restarted, r.1.2), r.2) := by
    rintro ⟨⟨result, m⟩, s⟩ rfl
    rfl
  have hensure := hparts podRestart restarted_podRestart
  have hlife : ∀ f, podManager.feeds["default/cfg"]? = some f →
      Life vanishing podManager.options "default" (everySeconds 10) [podType] f := by
    intro f hf
    rw [← Option.some.inj (feed_podManager.symm.trans hf)]
    exact life_podGone
  exact ⟨life_podGone, htarget, restarted_podRestart, renewed_of_ensure hlife htarget hensure⟩

/-- The delete of the pod waits in the buffer of the old feed. Nothing has come in after it, no
request has been sent to the index, and it is nowhere in the new feed. -/
theorem restart_loses_delete : ∃ d : Change, d.isDelete = true ∧
    podManager.feeds["default/cfg"]?.bind (·.loop.buffer.pending[d.id]?) = some d ∧
    podGone.1.queue = [] ∧ podRestart.1.1 = .ok .restarted ∧ podRestart.2.2 = 0 ∧
    ∃ f', podRestart.1.2.feeds["default/cfg"]? = some f' ∧ f'.loop.intake.items = [] ∧
      f'.loop.buffer.pending = ∅ ∧ f'.loop.underway? = none := by
  have hgone : (podGone.1.loop.buffer.pending["default:v1:Pod:web"]? ==
      some (.delete ⟨"default", "v1", "Pod", "web"⟩) && podGone.1.queue.isEmpty) = true := by
    decide +kernel
  obtain ⟨hwaits, hqueue⟩ := Bool.and_eq_true_iff.mp hgone
  have hblank := blank_podRestart
  rw [Bool.and_eq_true, Bool.and_eq_true] at hblank
  obtain ⟨⟨-, hsent⟩, hnew⟩ := hblank
  refine ⟨.delete ⟨"default", "v1", "Pod", "web"⟩, rfl, ?_, List.isEmpty_iff.mp hqueue,
    restarted_podRestart, eq_of_beq hsent, ?_⟩
  · rw [feed_podManager]
    exact eq_of_beq hwaits
  · cases hf' : podRestart.1.2.feeds["default/cfg"]? with
    | none =>
      rw [hf'] at hnew
      cases hnew
    | some f' =>
      rw [hf', Option.any_some, Bool.and_eq_true, Bool.and_eq_true] at hnew
      obtain ⟨⟨hitems, hpending⟩, hunderway⟩ := hnew
      exact ⟨f', rfl, List.isEmpty_iff.mp hitems, Std.ExtTreeMap.isEmpty_iff.mp hpending,
        Option.isNone_iff_eq_none.mp hunderway⟩

end Manager

end Control

end ClusterFeed
