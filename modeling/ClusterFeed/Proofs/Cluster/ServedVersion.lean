import ClusterFeed.Proofs.Cluster.Merging

/-!
# Served versions

The objects of a type can be listed only at a version that the cluster serves. What is chosen for a
definition is the first version that is marked for storage, whether it is served or not, and the
first served one only where none is marked. So the choice is the one it should be just when the
marked version is served. Where it is not, the type is watched at a version that nobody serves, and
a definition that serves nothing is not refused.

The choice is that of `crd_resource`.
-/

namespace ClusterFeed.Cluster.Definition

variable {vs : List DefinedVersion} {v : DefinedVersion} {d : Definition}

/-- The version at which a type should be watched: the one marked for storage if that is served,
else the first served one. -/
def servedChoice? (vs : List DefinedVersion) : Option DefinedVersion :=
  ((vs.find? (·.storage)).filter (·.served)).or (vs.find? (·.served))

theorem chosenVersion?_of_stored (h : vs.find? (·.storage) = some v) :
    chosenVersion? vs = some v := by
  unfold chosenVersion?
  rw [h]
  rfl

theorem chosenVersion?_of_none_stored (h : vs.find? (·.storage) = none) :
    chosenVersion? vs = vs.find? (·.served) := by
  unfold chosenVersion?
  rw [h]
  rfl

theorem served_of_servedChoice? (h : servedChoice? vs = some v) : v ∈ vs ∧ v.served = true := by
  unfold servedChoice? at h
  rcases Option.or_eq_some_iff.mp h with hstored | ⟨-, hfirst⟩
  · obtain ⟨hfind, hserved⟩ := Option.filter_eq_some_iff.mp hstored
    exact ⟨List.mem_of_find?_eq_some hfind, hserved⟩
  · exact ⟨List.mem_of_find?_eq_some hfirst, List.find?_some hfirst⟩

theorem servedChoice?_eq_none_iff : servedChoice? vs = none ↔ ∀ v ∈ vs, v.served = false := by
  constructor
  · intro h v hv
    have hfirst := (Option.or_eq_none_iff.mp h).2
    exact Bool.eq_false_iff.mpr (List.find?_eq_none.mp hfirst v hv)
  · intro h
    cases hc : servedChoice? vs with
    | none => rfl
    | some v =>
      obtain ⟨hv, hserved⟩ := served_of_servedChoice? hc
      rw [h v hv] at hserved
      cases hserved

/-- The choice is right just when the version that is marked for storage, if any, is served. -/
theorem chosenVersion?_eq_servedChoice?_iff :
    chosenVersion? vs = servedChoice? vs ↔
      ∀ v, vs.find? (·.storage) = some v → v.served = true := by
  constructor
  · intro h v hv
    rw [chosenVersion?_of_stored hv] at h
    exact (served_of_servedChoice? h.symm).2
  · intro h
    cases hs : vs.find? (·.storage) with
    | none =>
      rw [chosenVersion?_of_none_stored hs]
      unfold servedChoice?
      rw [hs]
      rfl
    | some v =>
      rw [chosenVersion?_of_stored hs]
      unfold servedChoice?
      simp [hs, Option.filter, h v hs]

/-- The type of a definition at one of its versions. -/
def typeAt (d : Definition) (v : DefinedVersion) : WatchedType :=
  ⟨⟨d.group, v.name, d.plural⟩, d.kind, d.scope == "Namespaced"⟩

theorem watched_of_chosen (hgroup : d.group ≠ "") (hplural : d.plural ≠ "")
    (h : chosenVersion? d.versions = some v) : d.watched = .ok (d.typeAt v) := by
  unfold watched
  rw [if_neg hgroup, if_neg hplural, h]
  rfl

theorem watched_of_none_chosen (hgroup : d.group ≠ "") (hplural : d.plural ≠ "")
    (h : chosenVersion? d.versions = none) : d.watched = .error (.noServedVersion d.name) := by
  unfold watched
  rw [if_neg hgroup, if_neg hplural, h]

/-- The type is watched only at a version that is served, and refused only if there is none. -/
structure WatchesServed (d : Definition) : Prop where
  /-- It is refused just when no version is served. -/
  refused : d.watched = .error (.noServedVersion d.name) ↔ ∀ v ∈ d.versions, v.served = false
  /-- Otherwise the version is a served one: that marked for storage, or else the first. -/
  chosen : ∀ w, d.watched = .ok w → ∃ v, chosenVersion? d.versions = some v ∧ w = d.typeAt v ∧
    v ∈ d.versions ∧ v.served = true ∧ servedChoice? d.versions = some v

/-- Just the definitions that mark a version for storage without serving it go wrong. They are
watched at that version and at no other one, whatever else they serve. -/
theorem watchesServed_iff (hgroup : d.group ≠ "") (hplural : d.plural ≠ "") :
    (d.WatchesServed ↔ ∀ v, d.versions.find? (·.storage) = some v → v.served = true) ∧
      ∀ v, d.versions.find? (·.storage) = some v → v.served = false →
        d.watched = .ok (d.typeAt v) ∧
        ∀ builtin custom, d.typeAt v ∈ custom →
          (∀ c ∈ custom, mergeKey c = mergeKey (d.typeAt v) → c = d.typeAt v) →
          ∀ w ∈ mergeDiscovered builtin custom, mergeKey w = mergeKey (d.typeAt v) →
            w = d.typeAt v := by
  refine ⟨⟨?_, ?_⟩, ?_⟩
  · intro h v hv
    have hchosen := chosenVersion?_of_stored hv
    obtain ⟨v', hv', -, -, hserved, -⟩ := h.chosen _ (watched_of_chosen hgroup hplural hchosen)
    cases hchosen.symm.trans hv'
    exact hserved
  · intro h
    have heq := chosenVersion?_eq_servedChoice?_iff.mpr h
    constructor
    · rw [← servedChoice?_eq_none_iff, ← heq]
      cases hc : chosenVersion? d.versions with
      | none => simp [watched_of_none_chosen hgroup hplural hc]
      | some v => simp [watched_of_chosen hgroup hplural hc]
    · intro w hw
      cases hc : chosenVersion? d.versions with
      | none =>
        rw [watched_of_none_chosen hgroup hplural hc] at hw
        cases hw
      | some v =>
        rw [watched_of_chosen hgroup hplural hc] at hw
        cases hw
        rw [hc] at heq
        obtain ⟨hv, hserved⟩ := served_of_servedChoice? heq.symm
        exact ⟨v, rfl, rfl, hv, hserved, heq.symm⟩
  · intro v hv _
    refine ⟨watched_of_chosen hgroup hplural (chosenVersion?_of_stored hv), ?_⟩
    intro builtin custom hmem honly w hw hkey
    exact eq_of_mem_mergeDiscovered hmem honly hw hkey

/-- A definition whose only version is stored and no longer served. -/
def retiredWidgets : Definition :=
  ⟨"widgets.example.com", "example.com", "widgets", "Widget", "Namespaced", [⟨"v1", false, true⟩]⟩

/-- The version of widgets at which they could be watched. -/
def servedWidgets : WatchedType := ⟨⟨"example.com", "v2", "widgets"⟩, "Widget", true⟩

/-- It serves nothing, and yet it is not refused: the type is watched at the retired version, and
not at one that the group tells of. -/
theorem watchesServed_iff_retiredWidgets :
    retiredWidgets.group ≠ "" ∧ retiredWidgets.plural ≠ "" ∧
      (∀ v ∈ retiredWidgets.versions, v.served = false) ∧ ¬ retiredWidgets.WatchesServed ∧
      retiredWidgets.watched = .ok ⟨⟨"example.com", "v1", "widgets"⟩, "Widget", true⟩ ∧
      servedWidgets ∉
        mergeDiscovered [servedWidgets] [⟨⟨"example.com", "v1", "widgets"⟩, "Widget", true⟩] := by
  have hgroup : retiredWidgets.group ≠ "" := by decide
  have hplural : retiredWidgets.plural ≠ "" := by decide
  have hstored : retiredWidgets.versions.find? (·.storage) = some ⟨"v1", false, true⟩ := rfl
  obtain ⟨hiff, hwrong⟩ := watchesServed_iff hgroup hplural
  obtain ⟨hwatched, honly⟩ := hwrong _ hstored rfl
  refine ⟨hgroup, hplural, by decide, ?_, hwatched, ?_⟩
  · intro h
    exact absurd (hiff.mp h _ hstored) (by decide)
  · intro h
    have heq := honly _ _ (List.mem_singleton_self _)
      (fun c hc _ => List.mem_singleton.mp hc) _ h rfl
    exact absurd heq (by decide)

end ClusterFeed.Cluster.Definition
