import ClusterFeed.Control.Resync
import ClusterFeed.Proofs.Buffer.Sequence
import ClusterFeed.Proofs.Buffer.Takeover
import ClusterFeed.Proofs.Watch.Inflow

/-!
# One object, one id

An object gets to the index on several paths: it is reported as new, as changed and as gone, and
resyncs tell of it. Some of them make a snapshot and take the id from there, others read the
identifier. They all come to the same id, with or without the type in the object, and so a delete in
the buffer takes the place of what waits there of the object.

The paths are `on_add`, `on_update`, `on_delete` and `collect_resync`, and the ids are those of
`identifier_of` and `extract_data`.
-/

namespace ClusterFeed

open Cluster (Manifest)
open Time (Instant)

/-- The id of an object that is watched; none when it cannot be written. -/
def Cluster.Manifest.id? (w : WatchedType) (m : Manifest) : Option String :=
  (m.filled? w).map fun j => (Object.identifier j).id

namespace Object

open Cluster.Manifest (fill statedOr)

theorem id_snapshot (now : Instant) (j : Json) : (snapshot now j).id = (identifier j).id :=
  id_upsert_snapshot now j

/-- With the type filled in, an object has the identifier that it had, but for the type. -/
theorem identifier_fill (w : WatchedType) (fs : List (String × Json)) :
    identifier (.obj (fill "kind" w.kind (fill "apiVersion" w.gvr.apiVersion fs))) =
      { identifier (.obj fs) with
        apiVersion := statedOr w.gvr.apiVersion ((Json.obj fs).text? "apiVersion")
        kind := statedOr w.kind ((Json.obj fs).text? "kind") } := by
  have hmeta : ∀ name : String,
      metaText? (.obj (fill "kind" w.kind (fill "apiVersion" w.gvr.apiVersion fs))) name =
        metaText? (.obj fs) name := by
    intro name
    unfold metaText?
    rw [Cluster.Manifest.get?_fill _ _ _ _ (by decide),
      Cluster.Manifest.get?_fill _ _ _ _ (by decide)]
  unfold identifier
  rw [hmeta, hmeta, Cluster.Manifest.text?_fill,
    Cluster.Manifest.text?_fill_of_ne _ (by decide : "kind" ≠ "apiVersion"),
    Cluster.Manifest.text?_fill, Cluster.Manifest.text?_fill_of_ne _ (by decide)]
  rfl

end Object

namespace Watch

variable {w : WatchedType} {m m' : Manifest} {j j' : Json} {now : Instant}

/-- Nothing is stated, or nothing but blanks, or what is watched. -/
def StatesAtMost (watched : String) (stated : Option String) : Prop :=
  ∀ s, stated = some s → s = "" ∨ s = watched

/-- Two values tell of one object of a watched type. -/
structure Alike (w : WatchedType) (j j' : Json) : Prop where
  /-- They agree on the name. -/
  name : (Object.identifier j).name = (Object.identifier j').name
  /-- They agree on the namespace. -/
  scope : (Object.identifier j).scope = (Object.identifier j').scope
  /-- They agree on the version, or neither states another one than that of the type. -/
  version : j.text? "apiVersion" = j'.text? "apiVersion" ∨
    StatesAtMost w.gvr.apiVersion (j.text? "apiVersion") ∧
      StatesAtMost w.gvr.apiVersion (j'.text? "apiVersion")
  /-- They agree on the kind, or neither states another one than that of the type. -/
  kind : j.text? "kind" = j'.text? "kind" ∨
    StatesAtMost w.kind (j.text? "kind") ∧ StatesAtMost w.kind (j'.text? "kind")

theorem statedOr_congr {watched : String} {stated stated' : Option String}
    (h : stated = stated' ∨ StatesAtMost watched stated ∧ StatesAtMost watched stated') :
    Manifest.statedOr watched stated = Manifest.statedOr watched stated' := by
  rcases h with rfl | ⟨h, h'⟩
  · rfl
  · rw [Manifest.statedOr_eq h, Manifest.statedOr_eq h']

theorem exists_fields (hj : m.toJson? = some j) : ∃ fs, j = .obj fs := by
  unfold Manifest.toJson? at hj
  split at hj
  · exact ⟨_, (Option.some.inj hj).symm⟩
  · exact ⟨_, (Option.some.inj hj).symm⟩
  · cases hj

theorem id?_congr (hj : m.toJson? = some j) (hj' : m'.toJson? = some j') (h : Alike w j j') :
    m.id? w = m'.id? w := by
  obtain ⟨fs, rfl⟩ := exists_fields hj
  obtain ⟨fs', rfl⟩ := exists_fields hj'
  have hid : ∀ {m : Manifest} {fs : List (String × Json)}, m.toJson? = some (.obj fs) →
      m.id? w = some (Identifier.mk (Object.identifier (.obj fs)).scope
        (Manifest.statedOr w.gvr.apiVersion ((Json.obj fs).text? "apiVersion"))
        (Manifest.statedOr w.kind ((Json.obj fs).text? "kind"))
        (Object.identifier (.obj fs)).name).id := by
    intro m fs hm
    unfold Manifest.id? Manifest.filled?
    rw [hm]
    exact congrArg (fun i => some (Identifier.id i)) (Object.identifier_fill w fs)
  rw [hid hj, hid hj', h.name, h.scope, statedOr_congr h.version, statedOr_congr h.kind]

/-! ## On the way to the buffer -/

/-- A report is offered to the queue as a change. -/
def Offers (w : WatchedType) (now : Instant) (cb : Callback) (c : Change) : Prop :=
  ∀ i : Inlet, i.take w now cb = i.offer c

theorem offers_of_change? {cb : Callback} {c : Change} (h : cb.Writes w)
    (hc : cb.change? w now = some c) : Offers w now cb c := by
  intro i
  rw [Inlet.take_eq now h, hc]

end Watch

/-! ## In the buffer -/

/-- The changes that wait and those on their way are under their ids. -/
theorem Outflow.keyed_of_run {b : Buffer} (hb : b.pending.Keyed) {es : List Outflow.Event}
    {o : Outflow} (hrun : (Outflow.new b).run? es = some o) :
    o.buffer.pending.Keyed ∧ (o.underway.getD ∅).Keyed := by
  have hnew : ((Outflow.new b).underway.getD ∅).Keyed := Pending.keyed_empty
  refine Outflow.run?_induction (motive := fun _ o =>
    o.buffer.pending.Keyed ∧ (o.underway.getD ∅).Keyed) ⟨hb, hnew⟩ ?_ hrun
  intro _ m e m' _ ⟨hpending, hunderway⟩ hs
  cases e with
  | record c =>
    cases hs
    exact ⟨Pending.Keyed.record hpending c, hunderway⟩
  | attach on =>
    cases hs
    exact ⟨hpending, hunderway⟩
  | start =>
    obtain ⟨hu, hbuffer, h⟩ := Outflow.step?_start hs
    rw [hbuffer]
    refine ⟨Pending.keyed_empty, ?_⟩
    rcases h with ⟨hnone, -⟩ | ⟨hsome, -⟩
    · rw [hnone]
      exact Pending.keyed_empty
    · rw [hsome]
      exact hpending
  | finish outcome =>
    obtain ⟨batch, hu, hbuffer, hnone, -⟩ := Outflow.step?_finish hs
    rw [hu] at hunderway
    rw [hbuffer, hnone]
    exact ⟨Pending.Keyed.endFlush hpending hunderway outcome, Pending.keyed_empty⟩

/-- A delete that comes in waits under its id, alone of its id, and nothing else is touched. -/
structure Supersedes (d : Change) (b : Buffer) : Prop where
  waits : (b.record d).pending[d.id]? = some d
  alone : ∀ (id : String) (c : Change), (b.record d).pending[id]? = some c → c.id = d.id → c = d
  others : ∀ id : String, id ≠ d.id → (b.record d).pending[id]? = b.pending[id]?

theorem supersedes_of_isDelete {d : Change} (hd : d.isDelete = true) (hid : d.id ≠ "") {b : Buffer}
    (hb : b.pending.Keyed) : Supersedes d b := by
  have hwaits : (b.record d).pending[d.id]? = some d := by
    rw [Buffer.getElem?_record, if_pos ⟨rfl, hid⟩, Change.onto_of_isDelete hd]
  refine ⟨hwaits, fun id c hc hsame => ?_, fun id hne => ?_⟩
  · have hkey : c.id = id := Pending.Keyed.record hb d id c hc
    rw [← hkey, hsame, hwaits] at hc
    exact (Option.some.inj hc).symm
  · rw [Buffer.getElem?_record, if_neg fun h => hne h.1.symm]

/-! ## All paths -/

open Watch (Alike Callback Offers)

/-- All that the index hears of an object, it hears under an id. -/
structure Known (w : WatchedType) (m : Manifest) (id : String) : Prop where
  /-- This is the id of the object, with the type filled in. -/
  named : m.id? w = some id
  /-- An object that is new is offered to the queue with this id. -/
  add : ∀ now, ∃ c, Offers w now (.add m) c ∧ c.isUpsert = true ∧ c.id = id
  /-- So is one that is no longer what it was. -/
  update : ∀ now old o j, old.filled? w = some o → m.filled? w = some j →
    Object.isRelevant o j = true →
      ∃ c, Offers w now (.update old m) c ∧ c.isUpsert = true ∧ c.id = id
  /-- So is one that is gone, and whatever happened to the buffer before, the delete takes the place
  of what waits of the object. -/
  delete : ∀ now, ∃ d, Offers w now (.delete m) d ∧ d.isDelete = true ∧ d.id = id ∧
    ∀ window attached es o, (Outflow.new (.new window attached)).run? es = some o →
      Supersedes d o.buffer

theorem known_of_id? {w : WatchedType} {m : Manifest} {id : String} (h : m.id? w = some id) :
    Known w m id := by
  obtain ⟨j, hj, rfl⟩ := Option.map_eq_some_iff.mp h
  refine ⟨h, fun now => ?_, fun now old o j' ho hj' hnew => ?_, fun now => ?_⟩
  · refine ⟨.upsert (Object.snapshot now j), ?_, rfl, Object.id_snapshot now j⟩
    exact Watch.offers_of_change? ⟨j, hj⟩ (by rw [Callback.change?, hj]; rfl)
  · cases hj.symm.trans hj'
    refine ⟨.upsert (Object.snapshot now j), ?_, rfl, Object.id_snapshot now j⟩
    have hchange : (Callback.update old m).change? w now = some (.upsert (Object.snapshot now j)) :=
      (Watch.change?_update ho hj).trans (if_pos hnew)
    exact Watch.offers_of_change? ⟨⟨o, ho⟩, j, hj⟩ hchange
  · have hbuilt : (Change.delete (Object.identifier j)).Built := .inr ⟨_, rfl⟩
    refine ⟨.delete (Object.identifier j), ?_, rfl, rfl, fun window attached es o hrun => ?_⟩
    · exact Watch.offers_of_change? ⟨j, hj⟩ (by rw [Callback.change?, hj]; rfl)
    · exact supersedes_of_isDelete rfl hbuilt.id_ne_empty
        (Outflow.keyed_of_run Pending.keyed_empty hrun).1

/-- A resync tells of the objects under their ids. -/
theorem Control.ResyncSource.map_id_collect (now : Instant) (srcs : List ResyncSource) :
    (collect now srcs).map Snapshot.id =
      (srcs.filter fun src => !src.resource.gvr.isDefinition).flatMap fun src =>
        src.cache.values.filterMap (Manifest.id? src.resource) := by
  unfold collect snapshots
  rw [List.map_flatMap]
  refine List.flatMap_congr fun src _ => ?_
  rw [List.map_filterMap]
  refine List.filterMap_congr fun m _ => ?_
  unfold Manifest.id?
  rw [Option.map_map]
  exact congrArg (fun f => (m.filled? src.resource).map f) (funext (Object.id_snapshot now))

/-- The identifier and the snapshot of a value have one id. On all paths an object that can be
written is known by one id, also where it is told with its type and without, and resyncs tell of it
by the same id. -/
theorem one_id_on_all_paths {w : WatchedType} {m m' : Manifest} {j j' : Json}
    (hj : m.toJson? = some j) (hj' : m'.toJson? = some j') (h : Alike w j j') :
    (∀ now j, (Object.snapshot now j).id = (Object.identifier j).id) ∧
      (∃ id, Known w m id ∧ Known w m' id) ∧
      ∀ now srcs, (Control.ResyncSource.collect now srcs).map Snapshot.id =
        (srcs.filter fun src => !src.resource.gvr.isDefinition).flatMap fun src =>
          src.cache.values.filterMap (Manifest.id? src.resource) := by
  have hid : ∃ id, m.id? w = some id := by
    unfold Manifest.id? Manifest.filled?
    rw [hj]
    exact ⟨_, rfl⟩
  obtain ⟨id, hid⟩ := hid
  refine ⟨Object.id_snapshot, ⟨id, known_of_id? hid, known_of_id? ?_⟩,
    Control.ResyncSource.map_id_collect⟩
  rw [← Watch.id?_congr hj hj' h, hid]

/-- A type whose objects live in namespaces. -/
def podType : WatchedType := ⟨⟨"", "v1", "pods"⟩, "Pod", true⟩

/-- An object of the type, with the type that it states and its other fields. -/
def pod (types : Option Cluster.StatedType) (content : Json) : Manifest :=
  ⟨types, { Cluster.Metadata.empty with name := some "web", scope := some "prod" }, content⟩

/-- A listing leaves the kind of an object out and the version blank, an event states both. -/
theorem one_id_on_all_paths_pod :
    ∃ j j', (pod none (.obj [("apiVersion", .str "")])).toJson? = some j ∧
      (pod (some ⟨"v1", "Pod"⟩) .null).toJson? = some j' ∧ Alike podType j j' ∧
      ∃ id, Known podType (pod none (.obj [("apiVersion", .str "")])) id ∧
        Known podType (pod (some ⟨"v1", "Pod"⟩) .null) id := by
  have halike : Alike podType
      (.obj [("metadata", (pod none .null).metadata.toJson), ("apiVersion", .str "")])
      (.obj [("apiVersion", .str "v1"), ("kind", .str "Pod"),
        ("metadata", (pod none .null).metadata.toJson)]) := by
    refine ⟨rfl, rfl, .inr ⟨?_, ?_⟩, .inr ⟨nofun, ?_⟩⟩
    · exact fun s hs => .inl (Option.some.inj hs).symm
    · exact fun s hs => .inr (Option.some.inj hs).symm
    · exact fun s hs => .inr (Option.some.inj hs).symm
  exact ⟨_, _, rfl, rfl, halike, (one_id_on_all_paths rfl rfl halike).2.1⟩

end ClusterFeed
