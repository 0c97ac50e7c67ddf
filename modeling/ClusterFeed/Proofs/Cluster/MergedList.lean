import Mathlib.Data.List.Find
import ClusterFeed.Proofs.Cluster.Merging

/-!
# The list of merged types

What a merger lists, told by its two inputs alone: which groups and plural names occur, which type
stands for each of them, and in which order they come. Merging what was merged before changes
nothing, and the order of the inputs does not count unless one of them tells of a type twice.

The merger is `merge_discovered`.
-/

namespace ClusterFeed.Cluster

variable {builtin custom builtin' custom' : List WatchedType} {k : String × String}
  {w w' : WatchedType}

/-- The order in which types are listed: by group, and within a group by plural name. -/
def Precedes (a b : String × String) : Prop :=
  a.1 < b.1 ∨ a.1 = b.1 ∧ a.2 < b.2

theorem compare_eq_lt_iff {a b : String × String} :
    compareLex (compareOn (·.1)) (compareOn (·.2)) a b = .lt ↔ Precedes a b := by
  unfold Precedes compareLex compareOn
  rw [Ordering.then_eq_lt, Std.LawfulEqOrd.compare_eq_iff_eq]
  exact or_congr compareOfLessAndEq_eq_lt (and_congr_right' compareOfLessAndEq_eq_lt)

theorem isEligible_iff :
    isEligible w = true ↔ mergeKey w ∉ Selection.noisyTypes ∧ '/' ∉ w.gvr.resource.toList := by
  unfold isEligible Gvr.isSubresource Selection.isNoisy mergeKey
  rw [Bool.and_eq_true, Bool.not_eq_true', Bool.not_eq_true', List.contains_eq_mem,
    List.contains_eq_mem, decide_eq_false_iff_not, decide_eq_false_iff_not]
  exact and_comm

theorem mergeKey_of_mergeTable (h : (mergeTable builtin custom)[k]? = some w) : mergeKey w = k := by
  rw [getElem?_mergeTable, Option.filter_eq_some_iff] at h
  exact hasKey_iff.mp (List.find?_some h.1)

/-- Under a key only one type is listed. -/
theorem find?_mergeDiscovered (builtin custom : List WatchedType) (k : String × String) :
    (mergeDiscovered builtin custom).find? (hasKey k) = (mergeTable builtin custom)[k]? := by
  cases hk : (mergeTable builtin custom)[k]? with
  | none =>
    rw [List.find?_eq_none]
    intro w hw hkey
    rw [mergeDiscovered_eq, KeyedMap.mem_values] at hw
    obtain ⟨k', hk'⟩ := hw
    rw [← mergeKey_of_mergeTable hk', hasKey_iff.mp hkey, hk] at hk'
    cases hk'
  | some w =>
    have hkey := mergeKey_of_mergeTable hk
    have hmem : w ∈ mergeDiscovered builtin custom := by
      rw [mergeDiscovered_eq, KeyedMap.mem_values]
      exact ⟨k, hk⟩
    cases hfind : (mergeDiscovered builtin custom).find? (hasKey k) with
    | none => exact absurd (hasKey_iff.mpr hkey) (List.find?_eq_none.mp hfind w hmem)
    | some w' =>
      have hmem' := List.mem_of_find?_eq_some hfind
      rw [mergeDiscovered_eq, KeyedMap.mem_values] at hmem'
      obtain ⟨k', hk'⟩ := hmem'
      rw [← mergeKey_of_mergeTable hk', hasKey_iff.mp (List.find?_some hfind), hk] at hk'
      exact hk'.symm

/-- Mergers list the same when the same counts under each key. -/
theorem mergeDiscovered_congr
    (h : ∀ k : String × String,
      (mergeTable builtin custom)[k]? = (mergeTable builtin' custom')[k]?) :
    mergeDiscovered builtin custom = mergeDiscovered builtin' custom' := by
  rw [mergeDiscovered_eq, mergeDiscovered_eq, Std.ExtTreeMap.ext_getElem? h]

/-- Merging what was merged before with the same definitions, or with none, changes nothing. -/
theorem mergeDiscovered_again (h : custom' = custom ∨ custom' = []) :
    mergeDiscovered (mergeDiscovered builtin custom) custom' = mergeDiscovered builtin custom := by
  refine mergeDiscovered_congr fun k => ?_
  rw [getElem?_mergeTable, List.find?_append, find?_mergeDiscovered, getElem?_mergeTable,
    List.find?_append]
  rcases h with rfl | rfl
  · cases custom'.find? (hasKey k) <;> simp
  · simp

/-- Where an input tells of no type twice, its order does not count. -/
theorem find?_hasKey_of_perm {ws ws' : List WatchedType} (h : ws.Perm ws')
    (hws : ws.Pairwise fun a b => mergeKey a ≠ mergeKey b) (k : String × String) :
    ws.find? (hasKey k) = ws'.find? (hasKey k) := by
  refine List.find?_eq_find?_of_perm h fun a ha b hb => ?_
  by_contra hne
  have hsymm : Std.Symm fun a b : WatchedType => mergeKey a ≠ mergeKey b :=
    ⟨fun _ _ h => h.symm⟩
  exact hws.forall ha.1 hb.1 hne ((hasKey_iff.mp ha.2).trans (hasKey_iff.mp hb.2).symm)

theorem mergeDiscovered_perm (hbuiltin : builtin.Pairwise fun a b => mergeKey a ≠ mergeKey b)
    (hcustom : custom.Pairwise fun a b => mergeKey a ≠ mergeKey b)
    (hb : builtin.Perm builtin') (hc : custom.Perm custom') :
    mergeDiscovered builtin' custom' = mergeDiscovered builtin custom := by
  refine mergeDiscovered_congr fun k => ?_
  rw [getElem?_mergeTable, getElem?_mergeTable, List.find?_append, List.find?_append,
    find?_hasKey_of_perm hb hbuiltin, find?_hasKey_of_perm hc hcustom]

/-- What a list tells that was merged of two. -/
structure Lists (builtin custom merged : List WatchedType) : Prop where
  /-- Types come in order. -/
  ascending : merged.Pairwise fun a b => Precedes (mergeKey a) (mergeKey b)
  /-- Each type comes at one version. -/
  once : ∀ a ∈ merged, ∀ b ∈ merged, mergeKey a = mergeKey b → a = b
  /-- A group and plural name is listed exactly if one of the inputs tells of it, it is not one of
  those that are never watched, and it names no part of another type. -/
  complete : ∀ group resource : String, (∃ w ∈ merged, mergeKey w = (group, resource)) ↔
    (∃ w ∈ builtin ++ custom, mergeKey w = (group, resource)) ∧
      (group, resource) ∉ Selection.noisyTypes ∧ '/' ∉ resource.toList
  /-- The first definition of a type counts, or else the first that a group tells of it. -/
  first : ∀ w ∈ merged,
    (custom.find? (hasKey (mergeKey w))).or (builtin.find? (hasKey (mergeKey w))) = some w

theorem lists_mergeDiscovered (builtin custom : List WatchedType) :
    Lists builtin custom (mergeDiscovered builtin custom) where
  ascending := by
    rw [mergeDiscovered_eq]
    exact (KeyedMap.ordered_values mergeKey fun k w => mergeKey_of_mergeTable).imp
      compare_eq_lt_iff.mp
  once a ha b hb hab := by
    obtain ⟨hfind, -⟩ := mem_mergeDiscovered.mp ha
    obtain ⟨hfind', -⟩ := mem_mergeDiscovered.mp hb
    rw [hab, hfind'] at hfind
    exact (Option.some.inj hfind).symm
  complete group resource := by
    constructor
    · rintro ⟨w, hw, hkey⟩
      obtain ⟨hfind, heligible⟩ := mem_mergeDiscovered.mp hw
      have hmem := List.mem_append.mp (List.mem_of_find?_eq_some hfind)
      rw [isEligible_iff, hkey] at heligible
      obtain ⟨-, rfl⟩ := Prod.mk.inj hkey
      exact ⟨⟨w, List.mem_append.mpr hmem.symm, hkey⟩, heligible⟩
    · rintro ⟨⟨w, hw, hkey⟩, hquiet, hwhole⟩
      -- of all types under the key the first one is listed
      have hsome : ((custom ++ builtin).find? (hasKey (mergeKey w))).isSome := by
        rw [List.find?_isSome]
        exact ⟨w, List.mem_append.mpr (List.mem_append.mp hw).symm, hasKey_iff.mpr rfl⟩
      obtain ⟨v, hv⟩ := Option.isSome_iff_exists.mp hsome
      have hkeyv : mergeKey v = mergeKey w := hasKey_iff.mp (List.find?_some hv)
      have heligible : isEligible w = true := by
        obtain ⟨-, rfl⟩ := Prod.mk.inj hkey
        exact isEligible_iff.mpr ⟨hkey ▸ hquiet, hwhole⟩
      refine ⟨v, mem_mergeDiscovered.mpr ⟨hkeyv ▸ hv, ?_⟩, hkeyv.trans hkey⟩
      rw [isEligible_congr hkeyv, heligible]
  first w hw := by
    rw [← List.find?_append]
    exact (mem_mergeDiscovered.mp hw).1

/-- A merger lists each type that may be watched once and in order, the first definition of it
before all that the groups tell. Merging again changes nothing, and as long as neither input tells
of a type twice, their orders do not count. -/
theorem merge_is_exact (builtin custom : List WatchedType) :
    Lists builtin custom (mergeDiscovered builtin custom) ∧
      mergeDiscovered (mergeDiscovered builtin custom) [] = mergeDiscovered builtin custom ∧
      mergeDiscovered (mergeDiscovered builtin custom) custom = mergeDiscovered builtin custom ∧
      ∀ builtin' custom', builtin.Pairwise (fun a b => mergeKey a ≠ mergeKey b) →
        custom.Pairwise (fun a b => mergeKey a ≠ mergeKey b) → builtin.Perm builtin' →
        custom.Perm custom' → mergeDiscovered builtin' custom' = mergeDiscovered builtin custom :=
  ⟨lists_mergeDiscovered builtin custom, mergeDiscovered_again (.inr rfl),
    mergeDiscovered_again (.inl rfl), fun _ _ hbuiltin hcustom hb hc =>
      mergeDiscovered_perm hbuiltin hcustom hb hc⟩

/-- What the groups of a cluster tell of: pods, their logs and their events, and widgets at an older
version. -/
def groupTypes : List WatchedType :=
  [⟨⟨"example.com", "v1beta1", "widgets"⟩, "Widget", true⟩, ⟨⟨"", "v1", "pods"⟩, "Pod", true⟩,
    ⟨⟨"", "v1", "pods/log"⟩, "Pod", true⟩, ⟨⟨"", "v1", "events"⟩, "Event", true⟩]

/-- What its definitions tell of: widgets and gears. -/
def definedTypes : List WatchedType :=
  [⟨⟨"example.com", "v1", "widgets"⟩, "Widget", true⟩,
    ⟨⟨"example.com", "v2", "gears"⟩, "Gear", false⟩]

/-- Told in the opposite order, the same is listed: pods, gears, and widgets as they are defined. -/
theorem merge_is_exact_widgets :
    groupTypes.Pairwise (fun a b => mergeKey a ≠ mergeKey b) ∧
      definedTypes.Pairwise (fun a b => mergeKey a ≠ mergeKey b) ∧
      mergeDiscovered groupTypes.reverse definedTypes.reverse =
        [⟨⟨"", "v1", "pods"⟩, "Pod", true⟩, ⟨⟨"example.com", "v2", "gears"⟩, "Gear", false⟩,
          ⟨⟨"example.com", "v1", "widgets"⟩, "Widget", true⟩] := by
  have hgroups : groupTypes.Pairwise fun a b => mergeKey a ≠ mergeKey b := by decide +kernel
  have hdefined : definedTypes.Pairwise fun a b => mergeKey a ≠ mergeKey b := by decide +kernel
  obtain ⟨-, -, -, hperm⟩ := merge_is_exact groupTypes definedTypes
  refine ⟨hgroups, hdefined, (hperm _ _ hgroups hdefined groupTypes.reverse_perm.symm
    definedTypes.reverse_perm.symm).trans ?_⟩
  decide +kernel

end ClusterFeed.Cluster
