import ClusterFeed.Proofs.Cluster.Filled

/-!
# What is told of an object

An object may hold anything. What is told of it is made of its type, its name and namespace, its
labels and the annotations that are passed on, and of nothing else, as long as none of its other
fields takes the place of its type or its metadata.

What is told is made by `raw_object` and `extract_data`.
-/

namespace ClusterFeed.Cluster

open Time (Instant)

/-- When a type comes about, none of its fields is left over. -/
theorem ne_of_mem_takeTypes {apiVersion kind : Option String} {fs : List (String × Json)}
    (h : (takeTypes apiVersion kind fs).1.isSome) {f : String × Json}
    (hf : f ∈ (takeTypes apiVersion kind fs).2) : f.1 ≠ "apiVersion" ∧ f.1 ≠ "kind" := by
  fun_induction takeTypes apiVersion kind fs with
  | case1 => cases hf
  | case2 => cases h
  | case3 _ _ _ _ _ ih => exact ih h hf
  | case4 => cases h
  | case5 _ _ _ _ _ _ ih => exact ih h hf
  | case6 => cases h
  | case7 apiVersion kind name value fs hversion hkind types rest hrest ih =>
    rw [hrest] at ih
    rcases List.mem_cons.mp hf with rfl | hf
    · exact ⟨fun h => hversion (beq_iff_eq.mpr h), fun h => hkind (beq_iff_eq.mpr h)⟩
    · exact ih h hf

namespace Manifest

variable {w : WatchedType} {m m' : Manifest}

/-- The fields that hold the type and the metadata. -/
def reserved : List String := ["apiVersion", "kind", "metadata"]

/-- The object can be written, and no other field takes the place of its type or its metadata. -/
structure Plain (m : Manifest) : Prop where
  content : m.content = .null ∨ ∃ fs, m.content = .obj fs
  fields : ∀ f ∈ m.content.fields, f.1 ∉ reserved

/-- Objects that the cluster sends with their type are plain. -/
theorem plain_of_decode {t : Json.Tree} {m : Manifest} (h : decode t = some m)
    (htypes : m.types.isSome) : m.Plain := by
  obtain ⟨others, hothers, hm, hcontent⟩ := exists_of_decode h
  refine ⟨.inr ⟨_, hcontent⟩, fun f hf => ?_⟩
  rw [hm] at htypes
  rw [hcontent] at hf
  have hmetadata := hothers f (mem_of_mem_takeTypes hf)
  obtain ⟨hversion, hkind⟩ := ne_of_mem_takeTypes htypes hf
  simp [reserved, hversion, hkind, hmetadata]

/-- The annotations that are passed on. -/
def passedAnnotations (m : Manifest) : TextMap String :=
  (m.metadata.annotations.getD ∅).filter fun k _ => Selection.passes k

/-- The objects are the same in all that may be told of them. -/
structure Alike (m m' : Manifest) : Prop where
  types : m.types = m'.types
  name : m.metadata.name = m'.metadata.name
  scope : m.metadata.scope = m'.metadata.scope
  labels : m.metadata.labels.getD ∅ = m'.metadata.labels.getD ∅
  annotations : m.passedAnnotations = m'.passedAnnotations

/-- What is told of an object of a type. -/
def portrait (w : WatchedType) (now : Instant) (m : Manifest) : Snapshot :=
  let i : Identifier := .of m.metadata.scope
    (statedOr w.gvr.apiVersion (m.types.map (·.apiVersion)))
    (statedOr w.kind (m.types.map (·.kind))) (m.metadata.name.getD "")
  { name := i.name
    scope := i.scope
    kind := i.kind
    apiVersion := i.apiVersion
    labels := m.metadata.labels.getD ∅
    annotations := m.passedAnnotations
    timestamp := now }

theorem Alike.portrait_eq (h : m.Alike m') (w : WatchedType) (now : Instant) :
    m.portrait w now = m'.portrait w now := by
  unfold portrait
  rw [h.types, h.name, h.scope, h.labels, h.annotations]

theorem Alike.key?_eq (h : m.Alike m') : m.key? = m'.key? := by
  unfold key?
  rw [h.name, h.scope]

/-- What stands under the names of the type and the metadata is what the object has there. -/
theorem Plain.get?_reserved (h : m.Plain) :
    ∃ fs, m.toJson? = some (.obj fs) ∧ ∀ name ∈ reserved, (Json.obj fs).get? name =
      (Json.obj (m.typeFields ++ [("metadata", m.metadata.toJson)])).get? name := by
  unfold toJson?
  rcases h.content with hc | ⟨fs, hc⟩
  · rw [hc]
    exact ⟨_, rfl, fun name _ => rfl⟩
  · rw [hc]
    refine ⟨_, rfl, fun name hname => Json.get?_foldl_set (fun f hf hfname => ?_) _⟩
    have hreserved := h.fields f
    rw [hc] at hreserved
    exact hreserved hf (hfname ▸ hname)

theorem text?_typeFields (m : Manifest) :
    (Json.obj (m.typeFields ++ [("metadata", m.metadata.toJson)])).text? "apiVersion" =
        m.types.map (·.apiVersion) ∧
      (Json.obj (m.typeFields ++ [("metadata", m.metadata.toJson)])).text? "kind" =
        m.types.map (·.kind) := by
  unfold Json.text? typeFields
  cases m.types with
  | none => exact ⟨rfl, rfl⟩
  | some t => exact ⟨rfl, rfl⟩

theorem Plain.writable (h : m.Plain) : m.Writable := by
  refine ⟨h.content, fun f hf hname => ?_⟩
  exact h.fields f hf (hname ▸ by decide)

/-- What is told of an object of a type; none when it cannot be written. -/
def told? (w : WatchedType) (now : Instant) (m : Manifest) : Option Snapshot :=
  (m.filled? w).map (Object.snapshot now)

/-- Of a plain object just its portrait is told. -/
theorem Plain.told?_eq (h : m.Plain) (w : WatchedType) (now : Instant) :
    m.told? w now = some (m.portrait w now) := by
  obtain ⟨j, j', hj, htold⟩ := h.writable.exists_told w
  obtain ⟨fs, hfs, hreserved⟩ := h.get?_reserved
  cases hj.symm.trans hfs
  have hversion : (Json.obj fs).text? "apiVersion" = m.types.map (·.apiVersion) := by
    rw [Json.text?, hreserved _ (by decide)]
    exact (text?_typeFields m).1
  have hkind : (Json.obj fs).text? "kind" = m.types.map (·.kind) := by
    rw [Json.text?, hreserved _ (by decide)]
    exact (text?_typeFields m).2
  rw [hversion, hkind] at htold
  have hsnapshot : Object.snapshot now j' = m.portrait w now := by
    unfold Object.snapshot portrait passedAnnotations
    rw [htold.identifier, htold.labels, htold.annotations]
  rw [told?, htold.filled, Option.map_some, hsnapshot]

/-- The object itself, or one that differs from it in nothing that may be told. -/
inductive Twin (m : Manifest) : Manifest → Prop
  | same : Twin m m
  | alike {m' : Manifest} (h : m.Plain) (h' : m'.Plain) (hsame : m.Alike m') : Twin m m'

theorem Twin.key?_eq (h : m.Twin m') : m.key? = m'.key? := by
  cases h with
  | same => rfl
  | alike _ _ hsame => exact hsame.key?_eq

/-- Of twins the same is told. -/
theorem Twin.told?_eq (h : m.Twin m') (w : WatchedType) (now : Instant) :
    m.told? w now = m'.told? w now := by
  cases h with
  | same => rfl
  | alike h h' hsame => rw [h.told?_eq, h'.told?_eq, hsame.portrait_eq]

end Manifest

end ClusterFeed.Cluster
