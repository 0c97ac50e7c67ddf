import ClusterFeed.Control.Feed
import ClusterFeed.Proofs.Watch.Inflow
import ClusterFeed.Proofs.Watch.Story

/-!
# What the informers of a feed put into its queue

A feed together with all changes that its informers have put into the queue so far. An informer
takes in the events of its watch one after the other, and the flush loop takes its turns in between.
As long as nothing is dropped, what comes into the queue with an event is what the informer reports.

An event comes in by `dispatch`, and a turn is one of `run`.
-/

namespace ClusterFeed.Control

open Sync (SyncError)
open Time (Instant)
open Watch (Informer Callback)

namespace Feed

/-- A feed for types whose informers have not asked for anything yet. -/
def beginning (opts : Options) (scope : String) (settings : Settings) (now : Nat)
    (types : List WatchedType) : Feed :=
  (types.map Informer.start).foldl put (empty opts scope settings now)

/-- The changes that wait in the queue. -/
def queue (f : Feed) : List Change := f.loop.intake.items

/-- The objects of a type as its informer saw them last. -/
def cacheOf (f : Feed) (gvr : Gvr) : Watch.Cache :=
  (f.informers[gvr]?).elim ∅ Informer.cache

/-- The informer of a type takes an event in, and its reports go into the queue. -/
def takeIn (gvr : Gvr) (now : Instant) (e : Watch.Event) (f : Feed) : Feed :=
  match f.informers[gvr]? with
  | some i =>
    let (cs, i) := i.handle e i.phase
    ({ f with informers := f.informers.insert gvr i }).deliver i.resource now cs
  | none => f

/-- What happens to a feed. -/
inductive Event where
  /-- The watch of a type tells something. -/
  | watch (gvr : Gvr) (now : Instant) (e : Watch.Event)
  /-- The flush loop takes a turn. -/
  | turn
  /-- The flush loop hears of the batch that is on its way. -/
  | answer (outcome : Except SyncError Sync.Response)
  /-- Time passes. -/
  | pass (nanos : Nat)

/-- The events of a watch are about objects of its type, and a list names no key twice. -/
def Event.Fits (types : List WatchedType) (namespaced : Gvr → Bool) : Event → Prop
  | .watch gvr _ e => ∀ w ∈ types, w.gvr = gvr → e.Fits w (namespaced gvr)
  | _ => True

end Feed

/-- A feed and what has come into its queue so far, each change with the type that it is from. -/
structure Traffic where
  /-- The feed. -/
  feed : Feed
  /-- The changes, the oldest first. -/
  forwarded : List (Gvr × Change)

namespace Traffic

/-- One event. -/
def step (t : Traffic) : Feed.Event → Traffic
  | .watch gvr now e =>
    let f := t.feed.takeIn gvr now e
    ⟨f, t.forwarded ++ (f.queue.drop t.feed.queue.length).map (gvr, ·)⟩
  | .turn => { t with feed := { t.feed with loop := t.feed.loop.turn?.getD t.feed.loop } }
  | .answer outcome => { t with feed := { t.feed with loop := t.feed.loop.answer outcome } }
  | .pass nanos => { t with feed := { t.feed with loop := t.feed.loop.advance nanos } }

/-- Events one after the other. -/
def run (t : Traffic) (es : List Feed.Event) : Traffic := es.foldl step t

/-- The change of an id that came into the queue last. -/
def last? (t : Traffic) (id : String) : Option (Gvr × Change) :=
  t.forwarded.findRev? fun e => decide (e.2.id = id)

/-- What the index was told last of an id. -/
def told (t : Traffic) (id : String) : Option Face := (t.last? id).bind fun e => e.2.verdict

theorem run_concat (t : Traffic) (es : List Feed.Event) (e : Feed.Event) :
    t.run (es ++ [e]) = (t.run es).step e := by
  unfold run
  rw [List.foldl_append]
  rfl

end Traffic

/-! ## The beginning -/

theorem informers_foldl_put (is : List Informer) (f : Feed) :
    (is.foldl Feed.put f).informers =
      is.foldl (fun m i => m.insert i.resource.gvr i) f.informers := by
  induction is generalizing f with
  | nil => rfl
  | cons i is ih => exact ih (f.put i)

/-- The informers of a feed at its beginning are those of its types, and have seen nothing. -/
theorem informer_of_beginning {opts : Options} {scope : String} {settings : Settings} {now : Nat}
    {types : List WatchedType} {gvr : Gvr} {i : Informer}
    (h : (Feed.beginning opts scope settings now types).informers[gvr]? = some i) :
    ∃ w ∈ types, w.gvr = gvr ∧ i = .start w := by
  unfold Feed.beginning at h
  rw [informers_foldl_put,
    KeyedMap.getElem?_foldl_insert (fun i : Informer => i.resource.gvr) (fun i => i)] at h
  have hempty : (Feed.empty opts scope settings now).informers[gvr]? = none :=
    Std.ExtTreeMap.getElem?_empty
  rw [hempty, Option.or_none, Option.map_id'] at h
  obtain ⟨hmem, hgvr⟩ := Itemwise.mem_of_findRev? h
  obtain ⟨w, hw, rfl⟩ := List.mem_map.mp hmem
  exact ⟨w, hw, of_decide_eq_true hgvr, rfl⟩

theorem cacheOf_of_some {f : Feed} {gvr : Gvr} {i : Informer} (h : f.informers[gvr]? = some i) :
    f.cacheOf gvr = i.cache := by
  unfold Feed.cacheOf
  rw [h]
  rfl

theorem cacheOf_insert {f f' : Feed} {gvr : Gvr} {i : Informer}
    (h : f'.informers = f.informers.insert gvr i) (gvr' : Gvr) :
    f'.cacheOf gvr' = if gvr = gvr' then i.cache else f.cacheOf gvr' := by
  unfold Feed.cacheOf
  rw [h, KeyedMap.getElem?_insert_eq]
  split <;> rfl

/-! ## One event -/

theorem queue_inlet (f : Feed) : f.inlet.intake.items = f.queue := by
  unfold Feed.inlet Feed.queue Intake.close
  split <;> rfl

theorem dropped_le_deliver (f : Feed) (w : WatchedType) (now : Instant) (cs : List Callback) :
    f.dropped ≤ (f.deliver w now cs).dropped :=
  Watch.Inlet.dropped_le_takeAll now f.inlet cs

/-- Nothing is ever taken off the count of dropped changes. -/
theorem dropped_le_step (t : Traffic) (e : Feed.Event) :
    t.feed.dropped ≤ (t.step e).feed.dropped := by
  cases e with
  | watch gvr now e =>
    show t.feed.dropped ≤ (t.feed.takeIn gvr now e).dropped
    unfold Feed.takeIn
    split
    · rename_i i _
      exact dropped_le_deliver
        { t.feed with informers := t.feed.informers.insert gvr (i.handle e i.phase).2 }
        (i.handle e i.phase).2.resource now (i.handle e i.phase).1
    · exact Nat.le_refl _
  | turn => exact Nat.le_refl _
  | answer outcome => exact Nat.le_refl _
  | pass nanos => exact Nat.le_refl _

/-- Only the events of the watches concern the informers and what comes into the queue. -/
theorem step_of_not_watch (t : Traffic) {e : Feed.Event} (h : ∀ gvr now e', e ≠ .watch gvr now e') :
    (t.step e).feed.informers = t.feed.informers ∧ (t.step e).forwarded = t.forwarded := by
  cases e with
  | watch gvr now e' => exact absurd rfl (h gvr now e')
  | turn => exact ⟨rfl, rfl⟩
  | answer outcome => exact ⟨rfl, rfl⟩
  | pass nanos => exact ⟨rfl, rfl⟩

/-- Events of a watch without an informer pass unheard. -/
theorem step_watch_of_none {t : Traffic} {gvr : Gvr} {now : Instant} {e : Watch.Event}
    (h : t.feed.informers[gvr]? = none) : t.step (.watch gvr now e) = t := by
  have hf : t.feed.takeIn gvr now e = t.feed := by
    unfold Feed.takeIn
    rw [h]
  show (⟨t.feed.takeIn gvr now e, _⟩ : Traffic) = t
  rw [hf, List.drop_length, List.map_nil, List.append_nil]

/-- What an event of a watch does to its informer, and what comes into the queue with it. -/
theorem step_watch {t : Traffic} {gvr : Gvr} {now : Instant} {e : Watch.Event} {i : Informer}
    {namespaced : Bool} (hi : t.feed.informers[gvr]? = some i)
    (hkept : i.cache.WellKept i.resource namespaced) (he : e.Fits i.resource namespaced)
    (hdropped : (t.step (.watch gvr now e)).feed.dropped = t.feed.dropped) :
    ∃ cache chs, (t.step (.watch gvr now e)).feed.informers =
        t.feed.informers.insert gvr { i with cache } ∧
      (t.step (.watch gvr now e)).forwarded = t.forwarded ++ chs.map (gvr, ·) ∧
      cache.WellKept i.resource namespaced ∧
      Watch.Tells i.resource namespaced i.cache cache chs := by
  obtain ⟨cs, cache, hd⟩ := Watch.exists_dispatch i.cache (Watch.named_of_fits he)
  have hhandle : i.handle e i.phase = (cs, { i with cache }) := by
    unfold Informer.handle
    rw [hd]
  let met : Feed := { t.feed with informers := t.feed.informers.insert gvr { i with cache } }
  have htake : t.feed.takeIn gvr now e = met.deliver i.resource now cs := by
    unfold Feed.takeIn
    rw [hi]
    dsimp only
    rw [hhandle]
  have hqueue : (t.feed.takeIn gvr now e).queue =
      t.feed.queue ++ cs.filterMap (Callback.change? i.resource now) := by
    have hnone : (met.inlet.takeAll i.resource now cs).dropped = met.inlet.dropped := by
      have : (t.feed.takeIn gvr now e).dropped = t.feed.dropped := hdropped
      rw [htake] at this
      exact this
    have hitems := Watch.Inlet.items_takeAll now (Watch.writes_of_dispatch hkept he hd) hnone
    rw [queue_inlet] at hitems
    rw [htake]
    exact hitems
  refine ⟨cache, cs.filterMap (Callback.change? i.resource now), ?_, ?_,
    Watch.wellKept_of_dispatch hkept he hd, Watch.tells_of_dispatch hkept he hd now⟩
  · show (t.feed.takeIn gvr now e).informers = _
    rw [htake]
    rfl
  · show t.forwarded ++ ((t.feed.takeIn gvr now e).queue.drop t.feed.queue.length).map (gvr, ·) = _
    rw [hqueue, List.drop_left]

end ClusterFeed.Control
