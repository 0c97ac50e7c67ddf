import ClusterFeed.Cluster.Manifest
import ClusterFeed.Resource.Object
import ClusterFeed.Proofs.Itemwise
import ClusterFeed.Proofs.Json.Fields
import ClusterFeed.Proofs.KeyedMap

/-!
# What the JSON of an object tells

The identity and the labels that are read from the JSON of an object are those of its metadata, with
the type that is watched.
-/

namespace ClusterFeed.Cluster

namespace Metadata

theorem text?_toJson_name (m : Metadata) : m.toJson.text? "name" = m.name := by
  unfold toJson Json.text?
  cases hn : m.name <;> simp [Json.get?_append, Json.get?_field?, Json.str?]

theorem text?_toJson_namespace (m : Metadata) : m.toJson.text? "namespace" = m.scope := by
  unfold toJson Json.text?
  cases hs : m.scope <;> simp [Json.get?_append, Json.get?_field?, Json.str?]

theorem get?_toJson_labels (m : Metadata) :
    m.toJson.get? "labels" = m.labels.map TextMap.toJson := by
  unfold toJson
  simp [Json.get?_append, Json.get?_field?]

theorem get?_toJson_annotations (m : Metadata) :
    m.toJson.get? "annotations" = m.annotations.map TextMap.toJson := by
  unfold toJson
  simp [Json.get?_append, Json.get?_field?]

end Metadata

theorem mem_of_mem_takeTypes {apiVersion kind : Option String} {fs : List (String × Json)}
    {f : String × Json} (h : f ∈ (takeTypes apiVersion kind fs).2) : f ∈ fs := by
  fun_induction takeTypes apiVersion kind fs with
  | case1 => exact h
  | case2 => exact h
  | case3 kind name fs hname a ih => exact List.mem_cons_of_mem _ (ih h)
  | case4 => exact List.mem_cons_of_mem _ h
  | case5 apiVersion name fs _ hname k ih => exact List.mem_cons_of_mem _ (ih h)
  | case6 => exact List.mem_cons_of_mem _ h
  | case7 apiVersion kind name value fs _ _ types rest hrest ih =>
    rcases List.mem_cons.mp h with rfl | h
    · exact List.mem_cons_self
    · rw [hrest] at ih
      exact List.mem_cons_of_mem _ (ih h)

/-- A map of texts is read as it was written. -/
theorem textMap_toJson (t : TextMap String) : Object.textMap (some (TextMap.toJson t)) = t := by
  unfold Object.textMap TextMap.toJson
  simp only [Option.map_some, Json.fields, Option.getD_some]
  rw [List.foldl_map]
  exact KeyedMap.ofEntries_toList t

namespace Manifest

/-- The object can be written, and no other field takes the place of its metadata. -/
structure Writable (m : Manifest) : Prop where
  content : m.content = .null ∨ ∃ fs, m.content = .obj fs
  metadata : ∀ f ∈ m.content.fields, f.1 ≠ "metadata"

/-- The type that the object states, as far as it states one, is the type that is watched. -/
def StatesType (w : WatchedType) (m : Manifest) : Prop :=
  ∀ j, m.toJson? = some j →
    (∀ a, j.text? "apiVersion" = some a → a = "" ∨ a = w.gvr.apiVersion) ∧
      ∀ k, j.text? "kind" = some k → k = "" ∨ k = w.kind

theorem get?_toJson?_metadata {m : Manifest} (h : m.Writable) :
    ∃ fs, m.toJson? = some (.obj fs) ∧ (Json.obj fs).get? "metadata" = some m.metadata.toJson := by
  have hfixed : (Json.obj (m.typeFields ++ [("metadata", m.metadata.toJson)])).get? "metadata" =
      some m.metadata.toJson := by
    rw [Json.get?_append, Json.get?_singleton, if_pos rfl, Option.some_or]
  unfold toJson?
  rcases h.content with hc | ⟨fs, hc⟩
  · rw [hc]
    exact ⟨_, rfl, hfixed⟩
  · rw [hc]
    refine ⟨_, rfl, ?_⟩
    have hfs : ∀ f ∈ fs, f.1 ≠ "metadata" := by
      have := h.metadata
      rwa [hc] at this
    rw [Json.get?_foldl_set hfs, hfixed]

theorem get?_fill (name value : String) (fs : List (String × Json)) (name' : String)
    (h : name ≠ name') : (Json.obj (fill name value fs)).get? name' = (Json.obj fs).get? name' := by
  unfold fill
  split
  · rfl
  · rw [Json.get?_set, if_neg h]

/-- The text that an object states, or that of the watched type where it states none. -/
def statedOr (watched : String) (stated : Option String) : String :=
  (stated.filter (· != "")).getD watched

theorem statedOr_eq {watched : String} {stated : Option String}
    (h : ∀ s, stated = some s → s = "" ∨ s = watched) : statedOr watched stated = watched := by
  unfold statedOr
  cases stated with
  | none => rfl
  | some s =>
    rcases h s rfl with rfl | rfl
    · rfl
    · rw [Option.filter_some]
      split <;> rfl

/-- A field that has been filled in. -/
theorem text?_fill (name value : String) (fs : List (String × Json)) :
    (Json.obj (fill name value fs)).text? name =
      some (statedOr value ((Json.obj fs).text? name)) := by
  unfold fill hasText statedOr
  cases hs : (Json.obj fs).text? name with
  | none =>
    rw [if_neg (by simp), Json.text?, Json.get?_set, if_pos rfl]
    rfl
  | some s =>
    by_cases hempty : s = ""
    · rw [if_neg (by simp [hempty]), Json.text?, Json.get?_set, if_pos rfl, hempty]
      rfl
    · rw [if_pos (by simp [hempty]), hs, Option.filter_some_pos (by simp [hempty])]
      rfl

theorem text?_fill_of_ne {name value name' : String} (fs : List (String × Json))
    (h : name ≠ name') :
    (Json.obj (fill name value fs)).text? name' = (Json.obj fs).text? name' := by
  unfold Json.text?
  rw [get?_fill name value fs name' h]

/-- What is told of an object that can be written. -/
structure Told (w : WatchedType) (m : Manifest) (apiVersion kind : Option String) (j : Json) :
    Prop where
  filled : m.filled? w = some j
  identifier : Object.identifier j = .of m.metadata.scope (statedOr w.gvr.apiVersion apiVersion)
    (statedOr w.kind kind) (m.metadata.name.getD "")
  labels : Object.labels j = m.metadata.labels.getD ∅
  annotations : Object.metaMap j "annotations" = m.metadata.annotations.getD ∅

theorem Writable.exists_told {m : Manifest} (h : m.Writable) (w : WatchedType) :
    ∃ j j', m.toJson? = some j ∧ m.Told w (j.text? "apiVersion") (j.text? "kind") j' := by
  obtain ⟨fs, hj, hmeta⟩ := get?_toJson?_metadata h
  have hfilled : m.filled? w =
      some (.obj (fill "kind" w.kind (fill "apiVersion" w.gvr.apiVersion fs))) := by
    unfold filled?
    rw [hj]
    rfl
  have hmetadata :
      (Json.obj (fill "kind" w.kind (fill "apiVersion" w.gvr.apiVersion fs))).get? "metadata" =
        some m.metadata.toJson := by
    rw [get?_fill _ _ _ _ (by decide), get?_fill _ _ _ _ (by decide), hmeta]
  have hversion :
      (Json.obj (fill "kind" w.kind (fill "apiVersion" w.gvr.apiVersion fs))).text? "apiVersion" =
        some (statedOr w.gvr.apiVersion ((Json.obj fs).text? "apiVersion")) := by
    rw [text?_fill_of_ne _ (by decide), text?_fill]
  have hkind :
      (Json.obj (fill "kind" w.kind (fill "apiVersion" w.gvr.apiVersion fs))).text? "kind" =
        some (statedOr w.kind ((Json.obj fs).text? "kind")) := by
    rw [text?_fill, text?_fill_of_ne _ (by decide)]
  have hmap : ∀ (name : String) (t : Option (TextMap String)),
      m.metadata.toJson.get? name = t.map TextMap.toJson →
      Object.metaMap (.obj (fill "kind" w.kind (fill "apiVersion" w.gvr.apiVersion fs))) name =
        t.getD ∅ := by
    intro name t ht
    unfold Object.metaMap
    rw [hmetadata, Option.bind_some, ht]
    cases t with
    | none => rfl
    | some t => exact textMap_toJson t
  refine ⟨_, _, hj, hfilled, ?_, hmap _ _ (Metadata.get?_toJson_labels _),
    hmap _ _ (Metadata.get?_toJson_annotations _)⟩
  unfold Object.identifier Object.metaText?
  rw [hmetadata, hversion, hkind]
  simp only [Option.bind_some, Option.getD_some, Metadata.text?_toJson_name,
    Metadata.text?_toJson_namespace]

/-- What is told of an object that can be written and states no other type. -/
theorem filled?_eq {w : WatchedType} {m : Manifest} (hw : m.Writable) (ht : m.StatesType w) :
    ∃ j, m.filled? w = some j ∧
      Object.identifier j =
        .of m.metadata.scope w.gvr.apiVersion w.kind (m.metadata.name.getD "") ∧
      Object.labels j = m.metadata.labels.getD ∅ := by
  obtain ⟨j, j', hj, htold⟩ := hw.exists_told w
  obtain ⟨hversion, hkind⟩ := ht j hj
  refine ⟨j', htold.filled, ?_, htold.labels⟩
  rw [htold.identifier, statedOr_eq hversion, statedOr_eq hkind]

/-- An object that the cluster sends has its type taken out of fields other than its metadata. -/
theorem exists_of_decode {t : Json.Tree} {m : Manifest} (h : decode t = some m) :
    ∃ others, (∀ f ∈ others, f.1 ≠ "metadata") ∧ m.types = (takeTypes none none others).1 ∧
      m.content = .obj (takeTypes none none others).2 := by
  simp only [decode, Option.bind_eq_bind, Option.bind_eq_some_iff] at h
  obtain ⟨fs, -, h⟩ := h
  have hread : ∀ metadata? : Option Metadata,
      (metadata?.bind fun metadata =>
        ((fs.filter (·.1 != "metadata")).mapM fun f =>
          (Json.Decode.whole f.2).bind fun j => some (f.1, j)).bind fun others =>
            some ⟨(takeTypes none none others).1, metadata, .obj (takeTypes none none others).2⟩) =
        some m →
      ∃ others, (∀ f ∈ others, f.1 ≠ "metadata") ∧ m.types = (takeTypes none none others).1 ∧
        m.content = .obj (takeTypes none none others).2 := by
    intro metadata? h
    obtain ⟨metadata, -, h⟩ := Option.bind_eq_some_iff.mp h
    obtain ⟨others, hothers, h⟩ := Option.bind_eq_some_iff.mp h
    cases h
    refine ⟨others, fun f hf => ?_, rfl, rfl⟩
    obtain ⟨g, hg, hgf⟩ := Itemwise.exists_of_mem hothers hf
    obtain ⟨j, -, hj⟩ := Option.bind_eq_some_iff.mp hgf
    cases hj
    exact bne_iff_ne.mp (List.mem_filter.mp hg).2
  split at h
  · exact hread _ h
  · exact hread _ h
  · exact hread _ h

/-- Objects that the cluster sends can be written. -/
theorem writable_of_decode {t : Json.Tree} {m : Manifest} (h : decode t = some m) :
    m.Writable := by
  obtain ⟨others, hothers, -, hcontent⟩ := exists_of_decode h
  refine ⟨.inr ⟨_, hcontent⟩, fun f hf => ?_⟩
  rw [hcontent] at hf
  exact hothers f (mem_of_mem_takeTypes hf)

end Manifest

end ClusterFeed.Cluster
