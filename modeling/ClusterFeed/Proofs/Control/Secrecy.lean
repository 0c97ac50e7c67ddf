import ClusterFeed.Control.Resync
import ClusterFeed.Proofs.Watch.Twins

/-!
# Nothing leaks

A secret may change its value as often as it likes: whoever reads the index cannot know. What goes
into the queue and what a resync tells depends on nothing but what may be told of an object.

What is told of an object is what `extract_data` takes out of it.
-/

namespace ClusterFeed.Control

open Cluster (Manifest Metadata)
open Time (Instant)
open Watch (Cache Callback Event Inlet Relay)

namespace ResyncSource

/-- The sources hold twins under each key. -/
structure Twin (src src' : ResyncSource) : Prop where
  resource : src.resource = src'.resource
  cache : src.cache.Twin src'.cache

theorem map_timeless_snapshots (now : Instant) (src : ResyncSource) :
    (src.snapshots now).map Snapshot.timeless = src.snapshots ⟨0, 0⟩ := by
  unfold snapshots
  rw [List.map_filterMap]
  exact List.filterMap_congr fun m _ => Manifest.map_timeless_told? now m

theorem map_timeless_collect (now : Instant) (srcs : List ResyncSource) :
    (collect now srcs).map Snapshot.timeless = collect ⟨0, 0⟩ srcs := by
  unfold collect
  rw [List.map_flatMap]
  exact List.flatMap_congr fun src _ => map_timeless_snapshots now src

theorem snapshots_of_plain (now : Instant) {src : ResyncSource}
    (h : ∀ m ∈ src.cache.values, m.Plain) :
    src.snapshots now = src.cache.values.map (Manifest.portrait src.resource now) := by
  unfold snapshots
  rw [← List.filterMap_eq_map]
  exact List.filterMap_congr fun m hm => (h m hm).told?_eq src.resource now

theorem Twin.snapshots_eq {src src' : ResyncSource} (h : src.Twin src') (now : Instant) :
    src.snapshots now = src'.snapshots now := by
  have hvalues : List.Forall₂ Manifest.Twin src.cache.values src'.cache.values :=
    KeyedMap.forall₂_values h.cache
  unfold snapshots
  rw [h.resource]
  exact Itemwise.filterMap_eq (hvalues.imp fun m m' hm => hm.told?_eq src'.resource now)

theorem collect_eq_of_twins {srcs srcs' : List ResyncSource} (h : List.Forall₂ Twin srcs srcs')
    (now : Instant) : collect now srcs = collect now srcs' := by
  induction h with
  | nil => rfl
  | @cons src src' srcs srcs' hsrc _ ih =>
    unfold collect at ih ⊢
    rw [List.filter_cons, List.filter_cons, hsrc.resource]
    split
    · rw [List.flatMap_cons, List.flatMap_cons, hsrc.snapshots_eq, ih]
    · exact ih

/-- A resync tells the same of twins, apart from the time. -/
theorem map_timeless_collect_eq {srcs srcs' : List ResyncSource}
    (h : List.Forall₂ Twin srcs srcs') (now now' : Instant) :
    (collect now srcs).map Snapshot.timeless = (collect now' srcs').map Snapshot.timeless := by
  rw [map_timeless_collect, map_timeless_collect, collect_eq_of_twins h]

end ResyncSource

/-- Nothing is told of what objects hold. Of plain objects just their portraits get into the queue
and into a resync. Reports on twins do the same to the queue, and resyncs tell the same of twins,
apart from the time. Two watches that hear the same but for the contents of the objects fill their
queues alike all the way, and a resync afterwards does not tell them apart either. -/
theorem contents_stay_inside :
    (∀ (w : WatchedType) (now : Instant) (i : Inlet) (cb : Callback), cb.Plain →
      i.take w now cb = ((cb.portrait? w now).map i.offer).getD i) ∧
    (∀ (now : Instant) (src : ResyncSource), (∀ m ∈ src.cache.values, m.Plain) →
      src.snapshots now = src.cache.values.map (Manifest.portrait src.resource now)) ∧
    (∀ (w : WatchedType) (cb cb' : Callback), cb.Twin cb' →
      ∀ i i' : Inlet, i.timeless = i'.timeless → ∀ now now' : Instant,
        (i.take w now cb).timeless = (i'.take w now' cb').timeless) ∧
    (∀ srcs srcs' : List ResyncSource, List.Forall₂ ResyncSource.Twin srcs srcs' →
      ∀ now now' : Instant, (ResyncSource.collect now srcs).map Snapshot.timeless =
        (ResyncSource.collect now' srcs').map Snapshot.timeless) ∧
    ∀ (w : WatchedType) (capacity : Nat) (es es' : List (Instant × Event)),
      List.Forall₂ (fun e e' => e.2.Twin e'.2) es es' →
      Option.Rel
        (fun r r' => r.inlet.timeless = r'.inlet.timeless ∧ ∀ now now' : Instant,
          (ResyncSource.collect now [⟨w, r.cache⟩]).map Snapshot.timeless =
            (ResyncSource.collect now' [⟨w, r'.cache⟩]).map Snapshot.timeless)
        ((Relay.new w capacity).run? es) ((Relay.new w capacity).run? es') := by
  refine ⟨?_, ?_, ?_, ?_, ?_⟩
  · intro w now i cb hcb
    exact Inlet.take_of_plain now i hcb
  · intro now src hsrc
    exact ResyncSource.snapshots_of_plain now hsrc
  · intro w cb cb' hcb i i' hi now now'
    exact Inlet.timeless_take_eq hi hcb now now'
  · intro srcs srcs' hsrcs now now'
    exact ResyncSource.map_timeless_collect_eq hsrcs now now'
  · intro w capacity es es' hes
    have hrun := (Relay.twin_new w capacity).run? hes
    generalize (Relay.new w capacity).run? es = out,
      (Relay.new w capacity).run? es' = out' at hrun ⊢
    cases hrun with
    | none => exact .none
    | @some r r' hr =>
      have hsource : ResyncSource.Twin ⟨w, r.cache⟩ ⟨w, r'.cache⟩ := ⟨rfl, hr.cache⟩
      exact .some ⟨hr.inlet,
        fun now now' => ResyncSource.map_timeless_collect_eq (.cons hsource .nil) now now'⟩

/-- Secrets as the cluster serves them. -/
def secrets : WatchedType := ⟨⟨"", "v1", "secrets"⟩, "Secret", true⟩

/-- The key under which an object as it was last applied is noted. -/
def lastApplied : String := "kubectl.kubernetes.io/last-applied-configuration"

/-- A secret, noted once more in its annotations. -/
def login (app password version : String) : Manifest :=
  ⟨some ⟨"v1", "Secret"⟩,
    { Metadata.empty with
      name := some "login"
      scope := some "prod"
      resourceVersion := some version
      labels := some ((∅ : TextMap String).insert "app" app)
      annotations :=
        some (((∅ : TextMap String).insert "team" "ops").insert lastApplied password) },
    .obj [("data", .obj [("password", .str password)])]⟩

theorem plain_login (app password version : String) : (login app password version).Plain := by
  refine ⟨.inr ⟨_, rfl⟩, fun f hf => ?_⟩
  cases List.mem_singleton.mp hf
  simp [Manifest.reserved]

/-- The password of a secret makes no difference. -/
theorem twin_login (app password version password' version' : String) :
    (login app password version).Twin (login app password' version') := by
  refine .alike (plain_login ..) (plain_login ..) ⟨rfl, rfl, rfl, rfl, ?_⟩
  have hpassed : ∀ password version, (login app password version).passedAnnotations =
      ((∅ : TextMap String).insert "team" "ops").filter fun k _ => Selection.passes k := by
    intro password version
    have hkept : Selection.passes lastApplied = false := by decide
    unfold Manifest.passedAnnotations login
    ext k v
    rw [Option.getD_some, Std.ExtTreeMap.getElem?_filter', Std.ExtTreeMap.getElem?_filter',
      KeyedMap.getElem?_insert_eq]
    by_cases hk : lastApplied = k
    · subst hk
      simp [hkept]
    · rw [if_neg hk]
  rw [hpassed, hpassed]

/-- The cache that holds a secret. -/
def loginSource (password version : String) : ResyncSource :=
  ⟨secrets, (∅ : Cache).insert ⟨some "prod", "login"⟩ (login "shop" password version)⟩

theorem plain_loginSource (password version : String) :
    ∀ m ∈ (loginSource password version).cache.values, m.Plain := by
  intro m hm
  obtain ⟨k, hk⟩ := KeyedMap.mem_values.mp hm
  rw [loginSource, KeyedMap.getElem?_insert_eq] at hk
  split at hk
  · cases hk
    exact plain_login ..
  · rw [Std.ExtTreeMap.getElem?_empty] at hk
    cases hk

theorem twin_loginSource (password version password' version' : String) :
    (loginSource password version).Twin (loginSource password' version') :=
  ⟨rfl, Cache.twin_empty.insert _ (twin_login ..)⟩

/-- A secret is made, gets another label, and goes. -/
def loginStory (password version : String) : List (Instant × Event) :=
  [(⟨1, 0⟩, .applied (login "shop" password version)),
    (⟨2, 0⟩, .applied (login "bank" password version)), (⟨3, 0⟩, .restarted [])]

/-- Three changes and a resync tell of a secret, and neither of two passwords is told. -/
theorem contents_stay_inside_login :
    (login "shop" "hunter2" "7").content ≠ (login "shop" "swordfish" "9").content ∧
      ((Inlet.mk (.new 2) 0).take secrets ⟨1, 0⟩
          (.add (login "shop" "hunter2" "7"))).intake.items =
        [.upsert ((login "shop" "hunter2" "7").portrait secrets ⟨1, 0⟩)] ∧
      ((loginSource "hunter2" "7").snapshots ⟨1, 0⟩ =
          (loginSource "hunter2" "7").cache.values.map (Manifest.portrait secrets ⟨1, 0⟩) ∧
        (loginSource "hunter2" "7").cache.values.length = 1) ∧
      ((Inlet.mk (.new 2) 0).take secrets ⟨1, 0⟩
          (.update (login "bank" "hunter2" "6") (login "shop" "hunter2" "7"))).timeless =
        ((Inlet.mk (.new 2) 0).take secrets ⟨5, 0⟩
          (.update (login "bank" "hunter2" "6") (login "shop" "swordfish" "9"))).timeless ∧
      (ResyncSource.collect ⟨1, 0⟩ [loginSource "hunter2" "7"]).map Snapshot.timeless =
        (ResyncSource.collect ⟨5, 0⟩ [loginSource "swordfish" "9"]).map Snapshot.timeless ∧
      ∃ r r', (Relay.new secrets 8).run? (loginStory "hunter2" "7") = some r ∧
        (Relay.new secrets 8).run? (loginStory "swordfish" "9") = some r' ∧
        r.inlet.timeless = r'.inlet.timeless ∧ r.inlet.intake.items.length = 3 := by
  obtain ⟨hqueue, hsnapshots, htake, hcollect, hrun⟩ := contents_stay_inside
  have hstory : List.Forall₂ (fun e e' => e.2.Twin e'.2) (loginStory "hunter2" "7")
      (loginStory "swordfish" "9") :=
    .cons (.applied (twin_login ..)) (.cons (.applied (twin_login ..))
      (.cons (.restarted .nil) .nil))
  have hend := hrun secrets 8 _ _ hstory
  have hlength : ((Relay.new secrets 8).run? (loginStory "hunter2" "7")).map
      (·.inlet.intake.items.length) = some 3 := by decide +kernel
  refine ⟨?_, ?_, ⟨?_, ?_⟩, ?_, ?_, ?_⟩
  · simp [login]
  · have hplain : (Callback.add (login "shop" "hunter2" "7")).Plain := plain_login ..
    rw [hqueue _ _ _ _ hplain]
    rfl
  · exact hsnapshots _ _ (plain_loginSource _ _)
  · decide +kernel
  · exact htake _ _ _ (.update .same (twin_login ..)) _ _ rfl _ _
  · exact hcollect _ _ (.cons (twin_loginSource ..) .nil) _ _
  · generalize (Relay.new secrets 8).run? (loginStory "hunter2" "7") = out,
      (Relay.new secrets 8).run? (loginStory "swordfish" "9") = out' at hend hlength ⊢
    cases hend with
    | none => cases hlength
    | some hr => exact ⟨_, _, rfl, rfl, hr.1, Option.some.inj hlength⟩

end ClusterFeed.Control
