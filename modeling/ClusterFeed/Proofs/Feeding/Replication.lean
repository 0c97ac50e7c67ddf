import ClusterFeed.Proofs.Feeding.Pipeline

/-!
# The index follows the cluster

At any time the newest change of an id, wherever it is on its way, tells what the cache holds of the
object, and once nothing is on its way any longer the index holds just the objects of the cache.
This is so as long as the objects are of the type that is watched, the queue drops nothing, and no
upsert is taken into the buffer while a delete of its id waits there.
-/

namespace ClusterFeed

open Cluster (Manifest Key)
open Sync (SyncError)
open Time (Duration Instant)

namespace Pipeline

open Watch (IsProper identifierOf faceOf)

/-- An event of the watch is about objects of the type, and a list names no key twice. -/
def Event.Fits (w : WatchedType) (namespaced : Bool) : Event → Prop
  | .watch _ e => e.Fits w namespaced
  | _ => True

/-- No upsert is taken into the buffer while a delete of its id waits there. -/
def Calm (p : Pipeline) (es : List Event) : Prop :=
  ∀ es₁ es₂ m c cs, es = es₁ ++ .read :: es₂ → p.run? es₁ = some m → m.queue = c :: cs →
    c.isUpsert → ∀ old, m.pending[c.id]? = some old → ¬ old.isDelete

/-- The changes that are on their way tell what is in the cache. -/
structure Follows (w : WatchedType) (namespaced : Bool) (p : Pipeline) : Prop where
  resource : p.relay.resource = w
  cache : p.cache.WellKept w namespaced
  attached : p.outflow.buffer.attached = true
  queue : ∀ c ∈ p.queue, c.Built
  pending : p.pending.Sound
  underway : p.underway.Sound
  told : ∀ k, IsProper namespaced k →
    p.told (identifierOf w k).id = (p.cache[k]?).map (faceOf w k)
  others : ∀ id, (∀ k, IsProper namespaced k → id ≠ (identifierOf w k).id) → p.told id = none

variable {w : WatchedType} {namespaced : Bool} {p q : Pipeline} {e : Event}

theorem follows_new (w : WatchedType) (namespaced : Bool) (capacity : Nat) (window : Duration) :
    (new w capacity window).Follows w namespaced := by
  have htold : ∀ id, (new w capacity window).told id = none := by
    intro id
    have hquiet : (new w capacity window).Quiet := ⟨rfl, rfl, rfl⟩
    rw [told_of_quiet hquiet]
    simp [new]
  refine ⟨rfl, Watch.wellKept_empty, rfl, ?_, ?_, ?_, fun k _ => ?_, fun id _ => htold id⟩
  · intro c hc
    cases hc
  · intro id c hc
    simp [pending, new, Outflow.new, Buffer.new] at hc
  · intro id c hc
    simp [underway, new, Outflow.new] at hc
  · rw [htold]
    simp [Pipeline.cache, new, Watch.Relay.new]

/-! ## Events of the watch -/

theorem told_append {chs : List Change} (hqueue : q.queue = p.queue ++ chs)
    (hrest : q.outflow = p.outflow) (hindex : q.index = p.index) (id : String) :
    q.told id = match chs.findRev? fun c => decide (c.id = id) with
      | some c => c.verdict
      | none => p.told id := by
  unfold told newest? pending underway
  rw [hqueue, hrest, hindex, Itemwise.findRev?_append]
  cases chs.findRev? fun c => decide (c.id = id) with
  | some c => rfl
  | none => rfl

/-- What an event of the watch does: changes come into the queue that tell what is in the cache. -/
theorem Follows.step?_watch (h : p.Follows w namespaced) {now : Instant} {e : Watch.Event}
    (he : e.Fits w namespaced) (hs : p.step? (.watch now e) = some q)
    (hdropped : q.dropped = p.dropped) :
    ∃ chs, q.queue = p.queue ++ chs ∧ q.outflow = p.outflow ∧ q.index = p.index ∧
      q.relay.resource = w ∧ q.cache.WellKept w namespaced ∧
      Watch.Tells w namespaced p.cache q.cache chs := by
  obtain ⟨⟨cbs, r⟩, hr, rfl⟩ := Option.map_eq_some_iff.mp hs
  obtain ⟨⟨cbs', c'⟩, hd, heq⟩ := Option.map_eq_some_iff.mp hr
  cases heq
  have hw := h.resource
  subst hw
  have hwrites := Watch.writes_of_dispatch h.cache he hd
  exact ⟨_, Watch.Inlet.items_takeAll now hwrites hdropped, rfl, rfl, rfl,
    Watch.wellKept_of_dispatch h.cache he hd, Watch.tells_of_dispatch h.cache he hd now⟩

/-- An event of the watch changes the cache and tells so. -/
theorem Follows.watch (h : p.Follows w namespaced) {now : Instant} {e : Watch.Event}
    (he : e.Fits w namespaced) (hs : p.step? (.watch now e) = some q)
    (hdropped : q.dropped = p.dropped) : q.Follows w namespaced := by
  obtain ⟨chs, hqueue, hrest, hindex, hresource, hcache, htells⟩ := h.step?_watch he hs hdropped
  refine ⟨hresource, hcache, ?_, ?_, ?_, ?_, fun k hk => ?_, fun id hid => ?_⟩
  · rw [hrest]
    exact h.attached
  · intro c hc
    rw [hqueue] at hc
    rcases List.mem_append.mp hc with hc | hc
    · exact h.queue c hc
    · obtain ⟨k, -, hsaid⟩ := htells.each c hc
      exact hsaid.built
  · unfold Pipeline.pending
    rw [hrest]
    exact h.pending
  · unfold Pipeline.underway
    rw [hrest]
    exact h.underway
  · rw [told_append hqueue hrest hindex]
    cases hf : chs.findRev? fun c => decide (c.id = (identifierOf w k).id) with
    | some c =>
      obtain ⟨hc, hid⟩ := Itemwise.mem_of_findRev? hf
      obtain ⟨k', hk', hsaid⟩ := htells.each c hc
      have hsame := hsaid.id.symm.trans (of_decide_eq_true hid)
      have heq : k' = k := Watch.key_eq_of_id_eq hk' hk hsame
      subst heq
      exact hsaid.verdict
    | none =>
      show p.told _ = _
      rw [h.told k hk, htells.silent k hk]
      intro c hc hid
      exact Itemwise.findRev?_eq_none_iff.mp hf c hc (decide_eq_true hid)
  · rw [told_append hqueue hrest hindex]
    cases hf : chs.findRev? fun c => decide (c.id = id) with
    | some c =>
      obtain ⟨hc, hcid⟩ := Itemwise.mem_of_findRev? hf
      obtain ⟨k, hk, hsaid⟩ := htells.each c hc
      exact absurd ((of_decide_eq_true hcid).symm.trans hsaid.id) (hid k hk)
    | none => exact h.others id hid

/-! ## Runs -/

/-- An event that only moves changes on. -/
theorem Follows.of_told (h : p.Follows w namespaced) (hrelay : q.relay.resource = p.relay.resource)
    (hcache : q.cache = p.cache) (hattached : q.outflow.buffer.attached = true)
    (hqueue : ∀ c ∈ q.queue, c.Built) (hpending : q.pending.Sound) (hunderway : q.underway.Sound)
    (htold : ∀ id, q.told id = p.told id) : q.Follows w namespaced := by
  refine ⟨hrelay.trans h.resource, hcache ▸ h.cache, hattached, hqueue, hpending, hunderway,
    fun k hk => ?_, fun id hid => ?_⟩
  · rw [htold, hcache, h.told k hk]
  · rw [htold, h.others id hid]

theorem Follows.read (h : p.Follows w namespaced) (hs : p.step? .read = some q)
    (hcalm : ∀ c cs, p.queue = c :: cs → c.isUpsert →
      ∀ old, p.pending[c.id]? = some old → ¬ old.isDelete) : q.Follows w namespaced := by
  cases hq : p.queue with
  | nil => simp [step?, hq] at hs
  | cons c cs =>
    have hbuilt : c.Built := h.queue c (hq ▸ List.mem_cons_self)
    have htold := fun id => told_read id hs hq hbuilt.id_ne_empty (hcalm c cs hq)
    simp only [step?, hq] at hs
    cases hs
    refine h.of_told rfl rfl ?_ ?_ ?_ h.underway htold
    · exact (Buffer.record_attached _ _).trans h.attached
    · exact fun c' hc' => h.queue c' (hq ▸ List.mem_cons_of_mem _ hc')
    · exact Pending.Sound.record h.pending hbuilt

theorem Follows.start (h : p.Follows w namespaced) (hs : p.step? .start = some q) :
    q.Follows w namespaced := by
  have htold := fun id => told_start id hs h.attached
  obtain ⟨o, ho, rfl⟩ := Option.map_eq_some_iff.mp hs
  obtain ⟨-, hb, hcase⟩ := Outflow.step?_start ho
  refine h.of_told rfl rfl ?_ h.queue ?_ ?_ htold
  · rw [hb]
    exact h.attached
  · unfold Pipeline.pending
    rw [hb]
    exact Pending.sound_empty
  · unfold Pipeline.underway
    rcases hcase with ⟨hu, -⟩ | ⟨hu, -⟩
    · rw [hu]
      exact Pending.sound_empty
    · rw [hu]
      exact h.pending

theorem Follows.finish (h : p.Follows w namespaced) {outcome : Except SyncError Sync.Response}
    {reached : String → Bool} (hs : p.step? (.finish outcome reached) = some q) :
    q.Follows w namespaced := by
  have htold := fun id => told_finish id hs h.underway
  obtain ⟨batch, hbatch, hs⟩ := Option.bind_eq_some_iff.mp hs
  obtain ⟨o, ho, rfl⟩ := Option.map_eq_some_iff.mp hs
  obtain ⟨batch', hbatch', hb, hu, -⟩ := Outflow.step?_finish ho
  rw [hbatch] at hbatch'
  cases hbatch'
  have hsound : batch.Sound := by
    have := h.underway
    rwa [Pipeline.underway, hbatch] at this
  refine h.of_told rfl rfl ?_ h.queue ?_ ?_ htold
  · rw [hb, Buffer.endFlush_attached]
    exact h.attached
  · unfold Pipeline.pending
    rw [hb]
    exact Pending.Sound.endFlush h.pending hsound outcome
  · unfold Pipeline.underway
    rw [hu]
    exact Pending.sound_empty

theorem dropped_le_step (hs : p.step? e = some q) : p.dropped ≤ q.dropped := by
  cases e with
  | watch now e =>
    obtain ⟨⟨cbs, r⟩, hr, rfl⟩ := Option.map_eq_some_iff.mp hs
    obtain ⟨⟨cbs', c'⟩, hd, heq⟩ := Option.map_eq_some_iff.mp hr
    cases heq
    exact Watch.Inlet.dropped_le_takeAll now p.relay.inlet cbs
  | read =>
    cases hq : p.queue with
    | nil => simp [step?, hq] at hs
    | cons c cs =>
      simp only [step?, hq] at hs
      cases hs
      exact Nat.le_refl _
  | start =>
    obtain ⟨o, -, rfl⟩ := Option.map_eq_some_iff.mp hs
    exact Nat.le_refl _
  | finish outcome reached =>
    obtain ⟨batch, -, hs⟩ := Option.bind_eq_some_iff.mp hs
    obtain ⟨o, -, rfl⟩ := Option.map_eq_some_iff.mp hs
    exact Nat.le_refl _

theorem Calm.of_append {es es' : List Event} (h : p.Calm (es ++ es')) : p.Calm es := by
  intro es₁ es₂ m c cs heq
  refine h es₁ (es₂ ++ es') m c cs ?_
  rw [heq, List.append_assoc]
  rfl

/-- In every run of a pipeline the changes that are on their way tell what is in the cache. -/
theorem follows_of_run {capacity : Nat} {window : Duration} {es : List Event}
    (hfits : ∀ e ∈ es, e.Fits w namespaced) (hcalm : (new w capacity window).Calm es)
    (hrun : (new w capacity window).run? es = some p) (hdropped : p.dropped = 0) :
    p.Follows w namespaced := by
  refine Runs.induction
    (motive := fun es p => (∀ e ∈ es, e.Fits w namespaced) → (new w capacity window).Calm es →
      p.dropped = 0 → p.Follows w namespaced)
    (fun _ _ _ => follows_new w namespaced capacity window)
    (fun es m e q hm ih hs hfits hcalm hdropped => ?_) hrun hfits hcalm hdropped
  have hle := dropped_le_step hs
  have hm0 : m.dropped = 0 := by omega
  have hfollows := ih (fun e' he' => hfits e' (List.mem_append_left _ he')) hcalm.of_append hm0
  cases e with
  | watch now e =>
    have he : e.Fits w namespaced := hfits (.watch now e) (by simp)
    exact hfollows.watch he hs (by omega)
  | read => exact hfollows.read hs fun c cs hq => hcalm es [] m c cs rfl hm hq
  | start => exact hfollows.start hs
  | finish outcome reached => exact hfollows.finish hs

/-- The index holds just the objects of the cache, each with its identity and its labels. -/
structure Mirrors (w : WatchedType) (cache : Watch.Cache) (index : Index) : Prop where
  /-- Each object of the cache is in the index. -/
  present : ∀ (k : Key) (m : Manifest), cache[k]? = some m → ∃ j s, m.filled? w = some j ∧
    index[(Object.identifier j).id]? = some s ∧ s.identifier = Object.identifier j ∧
    s.labels = Object.labels j
  /-- Each entry of the index is of one object of the cache. -/
  only : ∀ (id : String) (s : Snapshot), index[id]? = some s →
    ∃! k : Key, ∃ m j, cache[k]? = some m ∧ m.filled? w = some j ∧ (Object.identifier j).id = id

/-- How the index follows the cache. -/
structure Replicates (w : WatchedType) (p : Pipeline) : Prop where
  /-- The newest that is told of an object in the cache is what it looks like. -/
  newest : ∀ (k : Key) (m : Manifest), p.cache[k]? = some m → ∃ j, m.filled? w = some j ∧
    p.told (Object.identifier j).id = some ⟨Object.identifier j, Object.labels j⟩
  /-- The newest that is told of any other id is that there is nothing. -/
  gone : ∀ id, (∀ (k : Key) m j, p.cache[k]? = some m → m.filled? w = some j →
    (Object.identifier j).id ≠ id) → p.told id = none
  /-- Once nothing is on its way, the index holds just the objects of the cache. -/
  mirrors : p.Quiet → Mirrors w p.cache p.index

theorem Follows.filled (h : p.Follows w namespaced) {k : Key} {m : Manifest}
    (hm : p.cache[k]? = some m) :
    IsProper namespaced k ∧ ∃ j, m.filled? w = some j ∧ Object.identifier j = identifierOf w k ∧
      p.told (Object.identifier j).id = some ⟨Object.identifier j, Object.labels j⟩ := by
  obtain ⟨hkey, hfits⟩ := h.cache k m hm
  obtain ⟨j, hj, hface⟩ := hfits.filled hkey
  have hid : Object.identifier j = identifierOf w k := congrArg Face.identifier hface
  refine ⟨hfits.isProper hkey, j, hj, hid, ?_⟩
  rw [hface, hid, h.told k (hfits.isProper hkey), hm]
  rfl

/-- Of what something is told there is an object in the cache. -/
theorem Follows.exists_cached (h : p.Follows w namespaced) {id : String} {face : Face}
    (ht : p.told id = some face) :
    ∃ (k : Key) (m : Manifest) (j : Json), p.cache[k]? = some m ∧ m.filled? w = some j ∧
      (Object.identifier j).id = id := by
  by_cases hk : ∃ k, IsProper namespaced k ∧ id = (identifierOf w k).id
  · obtain ⟨k, hk, rfl⟩ := hk
    rw [h.told k hk] at ht
    obtain ⟨m, hm, -⟩ := Option.map_eq_some_iff.mp ht
    obtain ⟨-, j, hj, hid, -⟩ := h.filled hm
    exact ⟨k, m, j, hm, hj, congrArg Identifier.id hid⟩
  · rw [h.others id fun k hp hid => hk ⟨k, hp, hid⟩] at ht
    cases ht

theorem Follows.mirrors (h : p.Follows w namespaced) (hq : p.Quiet) :
    Mirrors w p.cache p.index := by
  refine ⟨fun k m hm => ?_, fun id s hs => ?_⟩
  · obtain ⟨-, j, hj, -, htold⟩ := h.filled hm
    rw [told_of_quiet hq] at htold
    obtain ⟨s, hs, hface⟩ := Option.map_eq_some_iff.mp htold
    exact ⟨j, s, hj, hs, congrArg Face.identifier hface, congrArg Face.labels hface⟩
  · have htold : p.told id = some s.face := by rw [told_of_quiet hq, hs, Option.map_some]
    obtain ⟨k, m, j, hm, hj, hid⟩ := h.exists_cached htold
    refine ⟨k, ⟨m, j, hm, hj, hid⟩, ?_⟩
    rintro k' ⟨m', j', hm', hj', hid'⟩
    obtain ⟨hk, i, hi, hik, -⟩ := h.filled hm
    obtain ⟨hk', i', hi', hik', -⟩ := h.filled hm'
    rw [hj] at hi
    rw [hj'] at hi'
    cases hi
    cases hi'
    refine Watch.key_eq_of_id_eq (w := w) hk' hk ?_
    rw [← hik, ← hik', hid, hid']

/-- The index follows the cluster: in every run the newest change of an id tells what the cache
holds, and once nothing is on its way the index holds just the objects of the cache. -/
theorem replicates_of_run (w : WatchedType) (namespaced : Bool) (capacity : Nat)
    (window : Duration) (es : List Event) (p : Pipeline)
    (hfits : ∀ e ∈ es, e.Fits w namespaced) (hcalm : (new w capacity window).Calm es)
    (hrun : (new w capacity window).run? es = some p) (hdropped : p.dropped = 0) :
    Replicates w p := by
  have h := follows_of_run hfits hcalm hrun hdropped
  refine ⟨fun k m hm => ?_, fun id hid => ?_, h.mirrors⟩
  · obtain ⟨-, j, hj, -, htold⟩ := h.filled hm
    exact ⟨j, hj, htold⟩
  · cases ht : p.told id with
    | none => rfl
    | some face =>
      obtain ⟨k, m, j, hm, hj, heq⟩ := h.exists_cached ht
      exact absurd heq (hid k m j hm hj)

/-! ## A run -/

/-- Whether an event takes no upsert into the buffer behind a delete. -/
def isCalm (p : Pipeline) : Event → Bool
  | .read =>
    match p.queue with
    | c :: _ => !(c.isUpsert && (p.pending[c.id]?).any Change.isDelete)
    | [] => true
  | _ => true

/-- Whether no event of a run takes an upsert into the buffer behind a delete. -/
def staysCalm (p : Pipeline) : List Event → Bool
  | [] => true
  | e :: es => p.isCalm e && (p.step? e).all fun q => q.staysCalm es

theorem isCalm_of_staysCalm {es₁ es₂ : List Event} (h : p.staysCalm (es₁ ++ e :: es₂) = true)
    (hrun : p.run? es₁ = some q) : q.isCalm e = true := by
  induction es₁ generalizing p with
  | nil =>
    cases hrun
    exact (Bool.and_eq_true_iff.mp h).1
  | cons e' es₁ ih =>
    obtain ⟨m, hm, hrun⟩ := Option.bind_eq_some_iff.mp hrun
    have hrest := (Bool.and_eq_true_iff.mp h).2
    rw [hm] at hrest
    exact ih hrest hrun

theorem calm_of_staysCalm {es : List Event} (h : p.staysCalm es = true) : p.Calm es := by
  rintro es₁ es₂ m c cs rfl hrun hq hu old hold hdel
  have hcalm := isCalm_of_staysCalm h hrun
  unfold isCalm at hcalm
  simp [hq, hu, hold, hdel] at hcalm

/-- The type of pods. -/
def pods : WatchedType := ⟨⟨"", "v1", "pods"⟩, "Pod", true⟩

/-- A pod as it comes in a list, without its type. -/
def pod (name : String) (labels : TextMap String) : Manifest :=
  ⟨none, { Cluster.Metadata.empty with
      name := some name, scope := some "default", labels := some labels },
    .obj [("spec", .obj [])]⟩

theorem fits_pod (name : String) (labels : TextMap String) :
    Watch.Fits pods true (pod name labels) := by
  refine ⟨⟨⟨some "default", name⟩, rfl, "default", rfl, by decide, by decide⟩,
    ⟨.inr ⟨_, rfl⟩, by simp [pod, Json.fields]⟩, fun j hj => ?_⟩
  cases hj
  refine ⟨fun a ha => ?_, fun k hk => ?_⟩
  · simp [Json.text?, Json.get?, Json.fields, Json.set, pod, Manifest.typeFields] at ha
  · simp [Json.text?, Json.get?, Json.fields, Json.set, pod, Manifest.typeFields] at hk

/-- A run in which a pod gets new labels while it is on its way, and is gone before it was sent
again; another one comes and is refused at first. -/
def podRun : List Event :=
  [.watch ⟨0, 0⟩ (.applied (pod "a" ∅)), .read, .start,
    .watch ⟨1, 0⟩ (.applied (pod "a" ((∅ : TextMap String).insert "rev" "2"))),
    .watch ⟨2, 0⟩ (.restarted [pod "b" ∅]), .read,
    .finish (.error (.status 500 "boom")) fun _ => true, .read, .read, .start,
    .finish (.error (.partialFailure ⟨false, none, some ⟨"PARTIAL", "",
      some ⟨0, 0, [⟨"default:v1:Pod:b", ""⟩]⟩⟩⟩)) fun _ => false,
    .start, .finish (.ok ⟨true, none, none⟩) fun _ => false]

theorem replicates_of_podRun :
    ∃ p, (new pods 8 ⟨0⟩).run? podRun = some p ∧ p.Quiet ∧
      p.index.keys = ["default:v1:Pod:b"] ∧ Replicates pods p := by
  have hfits : ∀ e ∈ podRun, e.Fits pods true := by
    simp [podRun, Event.Fits, Watch.Event.Fits, fits_pod]
  have hcalm : (new pods 8 ⟨0⟩).staysCalm podRun = true := by decide +kernel
  have hend : ((new pods 8 ⟨0⟩).run? podRun).map (fun p =>
      (p.queue, p.pending.isEmpty, p.outflow.underway.isNone, p.index.keys, p.dropped)) =
      some ([], true, true, ["default:v1:Pod:b"], 0) := by decide +kernel
  obtain ⟨p, hrun, hp⟩ := Option.map_eq_some_iff.mp hend
  simp only [Prod.mk.injEq] at hp
  obtain ⟨hqueue, hpending, hunderway, hkeys, hdropped⟩ := hp
  have hquiet : p.Quiet :=
    ⟨hqueue, Std.ExtTreeMap.isEmpty_iff.mp hpending, Option.isNone_iff_eq_none.mp hunderway⟩
  exact ⟨p, hrun, hquiet, hkeys,
    replicates_of_run pods true 8 ⟨0⟩ podRun p hfits (calm_of_staysCalm hcalm) hrun hdropped⟩

end Pipeline

end ClusterFeed
