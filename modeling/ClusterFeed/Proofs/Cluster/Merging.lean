import ClusterFeed.Cluster.Discovery
import ClusterFeed.Proofs.KeyedMap

/-!
# Merging what was discovered

Under a group and a plural name the first type that a definition gives counts, and where no
definition gives one the first that a group tells of. Whether a type may be watched at all depends
on the two alone, so a type that may not be watched never stands in the way of another.

The merger is `merge_discovered`, and what may be watched is up to `should_skip_resource` and
`is_subresource`.
-/

namespace ClusterFeed.Cluster

open Std (LawfulEqCmp TransCmp)

instance instTransCmpMergeKey : TransCmp (compareLex (compareOn (·.1)) (compareOn (·.2)) :
    String × String → String × String → Ordering) :=
  inferInstance

instance instLawfulEqCmpMergeKey : LawfulEqCmp (compareLex (compareOn (·.1)) (compareOn (·.2)) :
    String × String → String × String → Ordering) where
  eq_of_compare {a b} h := by
    simp only [compareLex, compareOn, Ordering.then_eq_eq, Std.LawfulEqOrd.compare_eq_iff_eq] at h
    exact Prod.ext h.1 h.2

variable {builtin custom builtin' custom' : List WatchedType} {k : String × String}
  {w w' : WatchedType}

/-- Whether a type is counted under a key. -/
def hasKey (k : String × String) (w : WatchedType) : Bool := decide (mergeKey w = k)

theorem hasKey_iff : hasKey k w = true ↔ mergeKey w = k := decide_eq_true_iff

theorem isEligible_congr (h : mergeKey w = mergeKey w') : isEligible w = isEligible w' := by
  obtain ⟨hgroup, hresource⟩ := Prod.ext_iff.mp h
  simp only [mergeKey] at hgroup hresource
  unfold isEligible Gvr.isSubresource
  rw [hgroup, hresource]

/-- Whether a definition counts instead of what a group says about a type. -/
def isHidden (custom : List WatchedType) (w : WatchedType) : Bool :=
  custom.any fun c => mergeKey c == mergeKey w

theorem isHidden_iff : isHidden custom w = true ↔ custom.find? (hasKey (mergeKey w)) ≠ none := by
  rw [isHidden, Ne, List.find?_eq_none, List.any_eq_true]
  constructor
  · rintro ⟨c, hc, hkey⟩ hnone
    exact hnone c hc (hasKey_iff.mpr (beq_iff_eq.mp hkey))
  · intro h
    by_contra hno
    refine h fun c hc hkey => hno ⟨c, hc, ?_⟩
    exact beq_iff_eq.mpr (hasKey_iff.mp hkey)

/-- The types by group and plural name, before they are listed. -/
def mergeTable (builtin custom : List WatchedType) : TypeTable :=
  ((builtin.filter (fun w => !isHidden custom w) ++ custom).filter isEligible).foldl
    (fun t w => t.insertIfNew (mergeKey w) w) ∅

theorem mergeDiscovered_eq (builtin custom : List WatchedType) :
    mergeDiscovered builtin custom = (mergeTable builtin custom).values := rfl

/-- Types of which a definition tells are found there, all others where the groups tell of them. -/
theorem find?_unhidden (builtin custom : List WatchedType) (k : String × String) :
    (builtin.filter (fun w => !isHidden custom w) ++ custom).find? (hasKey k) =
      (custom ++ builtin).find? (hasKey k) := by
  have hsame : ∀ w w', hasKey k w = true → hasKey k w' = true →
      (!isHidden custom w) = !isHidden custom w' := by
    intro w w' hw hw'
    unfold isHidden
    rw [hasKey_iff.mp hw, hasKey_iff.mp hw']
  rw [List.find?_append, List.find?_append, Itemwise.find?_filter_eq hsame]
  cases hb : builtin.find? (hasKey k) with
  | none => simp
  | some w =>
    have hkey : mergeKey w = k := hasKey_iff.mp (List.find?_some hb)
    cases hc : custom.find? (hasKey k) with
    | some c =>
      have hhidden : isHidden custom w = true := isHidden_iff.mpr (by simp [hkey, hc])
      rw [Option.filter_some_neg (by simp [hhidden])]
      rfl
    | none =>
      have hopen : ¬ isHidden custom w = true := fun h => isHidden_iff.mp h (by rw [hkey, hc])
      rw [Option.filter_some_pos (by simp [hopen])]
      rfl

/-- What counts under a key. -/
theorem getElem?_mergeTable (builtin custom : List WatchedType) (k : String × String) :
    (mergeTable builtin custom)[k]? =
      ((custom ++ builtin).find? (hasKey k)).filter isEligible := by
  have hsame : ∀ w w', hasKey k w = true → hasKey k w' = true → isEligible w = isEligible w' := by
    intro w w' hw hw'
    exact isEligible_congr ((hasKey_iff.mp hw).trans (hasKey_iff.mp hw').symm)
  have hfold := KeyedMap.getElem?_foldl_insertIfNew mergeKey
    ((builtin.filter (fun w => !isHidden custom w) ++ custom).filter isEligible)
    (∅ : TypeTable) k
  rw [Std.ExtTreeMap.getElem?_empty, Option.none_or] at hfold
  rw [mergeTable, hfold]
  exact (Itemwise.find?_filter_eq hsame _).trans
    (congrArg (Option.filter isEligible) (find?_unhidden builtin custom k))

/-- A type is listed if it may be watched and is the first under its key, definitions first. -/
theorem mem_mergeDiscovered :
    w ∈ mergeDiscovered builtin custom ↔
      (custom ++ builtin).find? (hasKey (mergeKey w)) = some w ∧ isEligible w = true := by
  rw [mergeDiscovered_eq, KeyedMap.mem_values]
  constructor
  · rintro ⟨k, hk⟩
    rw [getElem?_mergeTable, Option.filter_eq_some_iff] at hk
    obtain ⟨hfind, heligible⟩ := hk
    have hkey : mergeKey w = k := hasKey_iff.mp (List.find?_some hfind)
    rw [hkey]
    exact ⟨hfind, heligible⟩
  · rintro ⟨hfind, heligible⟩
    refine ⟨mergeKey w, ?_⟩
    rw [getElem?_mergeTable, hfind, Option.filter_some_pos heligible]

/-- Nothing but the type of a definition is listed under its key, whatever the groups tell. -/
theorem eq_of_mem_mergeDiscovered (hw' : w' ∈ custom)
    (honly : ∀ c ∈ custom, mergeKey c = mergeKey w' → c = w')
    (hw : w ∈ mergeDiscovered builtin custom) (hkey : mergeKey w = mergeKey w') : w = w' := by
  obtain ⟨hfind, -⟩ := mem_mergeDiscovered.mp hw
  rw [hkey, List.find?_append] at hfind
  cases hc : custom.find? (hasKey (mergeKey w')) with
  | none => exact absurd (hasKey_iff.mpr rfl) (List.find?_eq_none.mp hc w' hw')
  | some c =>
    rw [hc, Option.some_or] at hfind
    cases hfind
    exact honly w (List.mem_of_find?_eq_some hc) hkey

/-- Mergers that agree under the keys of some groups list the same types of these groups. -/
theorem filter_mergeDiscovered_eq (kept : String → Bool)
    (h : ∀ k : String × String, kept k.1 = true →
      (custom ++ builtin).find? (hasKey k) = (custom' ++ builtin').find? (hasKey k)) :
    (mergeDiscovered builtin custom).filter (kept ·.gvr.group) =
      (mergeDiscovered builtin' custom').filter (kept ·.gvr.group) := by
  rw [mergeDiscovered_eq, mergeDiscovered_eq, KeyedMap.filter_values, KeyedMap.filter_values]
  refine congrArg Std.ExtTreeMap.values (Std.ExtTreeMap.ext_getElem? fun k => ?_)
  rw [Std.ExtTreeMap.getElem?_filter', Std.ExtTreeMap.getElem?_filter', getElem?_mergeTable,
    getElem?_mergeTable]
  by_cases hk : kept k.1 = true
  · rw [h k hk]
  · have hnone : ∀ ws : List WatchedType,
        ((ws.find? (hasKey k)).filter isEligible).filter (kept ·.gvr.group) = none := by
      intro ws
      rw [Option.filter_eq_none_iff]
      intro w hw hkept
      obtain ⟨hfind, -⟩ := Option.filter_eq_some_iff.mp hw
      have hkey : mergeKey w = k := hasKey_iff.mp (List.find?_some hfind)
      rw [← hkey] at hk
      exact hk hkept
    rw [hnone, hnone]

end ClusterFeed.Cluster
