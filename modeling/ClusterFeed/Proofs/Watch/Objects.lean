import ClusterFeed.Watch.Cache
import ClusterFeed.Proofs.Cluster.Filled
import ClusterFeed.Proofs.Resource.Identity

/-!
# Objects of one type

The objects of a watched type live either all in namespaces or all in none. Then a key and an id say
the same of an object, and what the index has to know of it can be read off its metadata.
-/

namespace ClusterFeed

/-- What the index has to know of a resource: its identity and its labels. -/
structure Face where
  /-- The identity. -/
  identifier : Identifier
  /-- The labels. -/
  labels : TextMap String

/-- What a snapshot tells. -/
def Snapshot.face (s : Snapshot) : Face := ⟨s.identifier, s.labels⟩

/-- What the index has to know of a resource after a change; none when it is gone. -/
def Change.verdict (c : Change) : Option Face :=
  if c.isUpsert then c.data.map Snapshot.face else none

namespace Object

open Time (Instant)

theorem identifier_snapshot (now : Instant) (j : Json) :
    (snapshot now j).identifier = identifier j :=
  Identifier.of_scope (Identifier.scope_of_ne_empty _ _ _ _)

theorem verdict_upsert_snapshot (now : Instant) (j : Json) :
    (Change.upsert (snapshot now j)).verdict = some ⟨identifier j, labels j⟩ := by
  show some (Snapshot.face (snapshot now j)) = _
  rw [Snapshot.face, identifier_snapshot]
  rfl

theorem id_upsert_snapshot (now : Instant) (j : Json) :
    (Change.upsert (snapshot now j)).id = (identifier j).id :=
  congrArg Identifier.id (identifier_snapshot now j)

end Object

namespace Watch

open Cluster (Manifest Key)

variable {w : WatchedType} {namespaced : Bool}

/-- A key of the objects of a type: with a namespace that is not empty and free of colons, or
without a namespace. -/
def IsProper (namespaced : Bool) (k : Key) : Prop :=
  if namespaced then ∃ ns, k.scope = some ns ∧ ns ≠ "" ∧ ':' ∉ ns.toList else k.scope = none

/-- An object of a type, as the cluster sends it. -/
structure Fits (w : WatchedType) (namespaced : Bool) (m : Manifest) : Prop where
  /-- It has a name, and a namespace if the type's objects have one. -/
  keyed : ∃ k, m.key? = some k ∧ IsProper namespaced k
  /-- It can be written. -/
  writable : m.Writable
  /-- It states no other type. -/
  typed : m.StatesType w

/-- The identifier of the object with a key. -/
def identifierOf (w : WatchedType) (k : Key) : Identifier :=
  .of k.scope w.gvr.apiVersion w.kind k.name

/-- What the index has to know of the object with a key. -/
def faceOf (w : WatchedType) (k : Key) (m : Manifest) : Face :=
  ⟨identifierOf w k, m.metadata.labels.getD ∅⟩

theorem scope_identifierOf {k : Key} (h : IsProper namespaced k) :
    (identifierOf w k).scope = k.scope.getD clusterScope := by
  unfold IsProper at h
  unfold identifierOf Identifier.of
  cases namespaced with
  | true =>
    obtain ⟨ns, hns, hne, -⟩ := h
    simp [hns, hne]
  | false => simp [show k.scope = none from h]

theorem colon_free_identifierOf {k : Key} (h : IsProper namespaced k) :
    ':' ∉ (identifierOf w k).scope.toList := by
  rw [scope_identifierOf h]
  unfold IsProper at h
  cases namespaced with
  | true =>
    obtain ⟨ns, hns, -, hcolon⟩ := h
    rwa [hns]
  | false =>
    rw [show k.scope = none from h]
    decide

/-- The id tells the key. -/
theorem key_eq_of_id_eq {k k' : Key} (hk : IsProper namespaced k) (hk' : IsProper namespaced k')
    (h : (identifierOf w k).id = (identifierOf w k').id) : k = k' := by
  have hi := Identifier.eq_of_id_eq (colon_free_identifierOf hk) (colon_free_identifierOf hk')
    rfl rfl h
  have hscope := congrArg Identifier.scope hi
  have hname : k.name = k'.name := congrArg Identifier.name hi
  rw [scope_identifierOf hk, scope_identifierOf hk'] at hscope
  unfold IsProper at hk hk'
  obtain ⟨scope, name⟩ := k
  obtain ⟨scope', name'⟩ := k'
  cases namespaced with
  | true =>
    obtain ⟨ns, hns, -⟩ := hk
    obtain ⟨ns', hns', -⟩ := hk'
    simp_all
  | false => simp_all

theorem Fits.filled {m : Manifest} (h : Fits w namespaced m) {k : Key} (hk : m.key? = some k) :
    ∃ j, m.filled? w = some j ∧
      (⟨Object.identifier j, Object.labels j⟩ : Face) = faceOf w k m := by
  obtain ⟨j, hj, hi, hl⟩ := Manifest.filled?_eq h.writable h.typed
  obtain ⟨name, hname, hk⟩ := Option.map_eq_some_iff.mp hk
  subst hk
  refine ⟨j, hj, ?_⟩
  rw [hi, hl, hname]
  rfl

/-- What a resync would tell of an object. -/
theorem Fits.snapshot {m : Manifest} (h : Fits w namespaced m) {k : Key} (hk : m.key? = some k)
    {j : Json} (hj : m.filled? w = some j) (now : Time.Instant) :
    (Object.snapshot now j).id = (identifierOf w k).id ∧
      (Object.snapshot now j).labels = (faceOf w k m).labels := by
  obtain ⟨j', hj', hface⟩ := h.filled hk
  cases hj.symm.trans hj'
  have hid := congrArg (fun f => f.identifier.id) hface
  exact ⟨(Object.id_upsert_snapshot now j).trans hid, congrArg Face.labels hface⟩

theorem Fits.isProper {m : Manifest} (h : Fits w namespaced m) {k : Key} (hk : m.key? = some k) :
    IsProper namespaced k := by
  obtain ⟨k', hk', hp⟩ := h.keyed
  rw [hk] at hk'
  cases hk'
  exact hp

end Watch

end ClusterFeed
