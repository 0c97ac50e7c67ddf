import Std.Data.ExtTreeMap
import ClusterFeed.Proofs.Itemwise

/-!
# Maps and the lists of their values

What the values of a map are when they are written down as a list, and how a map grows when entries
are put in one after the other.
-/

namespace ClusterFeed.KeyedMap

open Std (ExtTreeMap TransCmp LawfulEqCmp)

variable {α β γ : Type} {cmp : α → α → Ordering} [TransCmp cmp]

theorem values_eq_map_toList (m : ExtTreeMap α β cmp) : m.values = m.toList.map Prod.snd := by
  have h : m.values = m.foldr (fun _ v vs => v :: vs) [] := by
    obtain ⟨inner⟩ := m
    induction inner with
    | mk t => rfl
  rw [h, ExtTreeMap.foldr_eq_foldr_toList]
  induction m.toList with
  | nil => rfl
  | cons e es ih => rw [List.foldr_cons, List.map_cons, ih]

theorem length_values (m : ExtTreeMap α β cmp) : m.values.length = m.size := by
  rw [values_eq_map_toList, List.length_map, ExtTreeMap.length_toList]

theorem filter_values (p : β → Bool) (m : ExtTreeMap α β cmp) :
    m.values.filter p = (m.filter fun _ v => p v).values := by
  rw [values_eq_map_toList, values_eq_map_toList, ExtTreeMap.toList_filter, List.filter_map]
  rfl

/-- Maps with the same keys list them alike, whatever their values. -/
theorem keys_eq_keys [LawfulEqCmp cmp] {m : ExtTreeMap α β cmp} {m' : ExtTreeMap α γ cmp}
    (h : ∀ k, k ∈ m ↔ k ∈ m') : m.keys = m'.keys := by
  have hunit : m.map (fun _ _ => ()) = m'.map (fun _ _ => ()) :=
    ExtTreeMap.ext_mem_unit fun k => by rw [ExtTreeMap.mem_map, ExtTreeMap.mem_map, h k]
  rw [← ExtTreeMap.keys_map (t := m) (f := fun _ _ => ()), hunit, ExtTreeMap.keys_map]

/-- Steps taken one after the other: under a key the last step about it counts. -/
theorem getElem?_foldl {step : ExtTreeMap α β cmp → γ → ExtTreeMap α β cmp} {k : α}
    {isAbout : γ → Prop} [DecidablePred isAbout] {outcome : γ → Option β}
    (hstep : ∀ m e, (step m e)[k]? = if isAbout e then outcome e else m[k]?) (es : List γ)
    (m : ExtTreeMap α β cmp) :
    (es.foldl step m)[k]? = (es.findRev? fun e => decide (isAbout e)).elim m[k]? outcome := by
  induction es generalizing m with
  | nil => rfl
  | cons e es ih =>
    rw [List.foldl_cons, ih, hstep, Itemwise.findRev?_cons]
    cases es.findRev? fun e => decide (isAbout e) with
    | some e' => rfl
    | none =>
      by_cases he : isAbout e
      · simp [he]
      · simp [he]

variable [LawfulEqCmp cmp]

theorem mem_values {m : ExtTreeMap α β cmp} {v : β} : v ∈ m.values ↔ ∃ k : α, m[k]? = some v := by
  rw [values_eq_map_toList, List.mem_map]
  constructor
  · rintro ⟨⟨k, w⟩, h, rfl⟩
    exact ⟨k, ExtTreeMap.mem_toList_iff_getElem?_eq_some.mp h⟩
  · rintro ⟨k, h⟩
    exact ⟨(k, v), ExtTreeMap.mem_toList_iff_getElem?_eq_some.mpr h, rfl⟩

theorem getElem?_insert_eq [DecidableEq α] (m : ExtTreeMap α β cmp) (k a : α) (v : β) :
    (m.insert k v)[a]? = if k = a then some v else m[a]? := by
  rw [ExtTreeMap.getElem?_insert]
  by_cases h : k = a
  · rw [if_pos h, if_pos (LawfulEqCmp.compare_eq_iff_eq.mpr h)]
  · rw [if_neg h, if_neg (fun hc => h (LawfulEqCmp.compare_eq_iff_eq.mp hc))]

theorem getElem?_erase_eq [DecidableEq α] (m : ExtTreeMap α β cmp) (k a : α) :
    (m.erase k)[a]? = if k = a then none else m[a]? := by
  rw [ExtTreeMap.getElem?_erase]
  by_cases h : k = a
  · rw [if_pos h, if_pos (LawfulEqCmp.compare_eq_iff_eq.mpr h)]
  · rw [if_neg h, if_neg (fun hc => h (LawfulEqCmp.compare_eq_iff_eq.mp hc))]

/-- Entries put in one after the other: of those with one key the last counts. -/
theorem getElem?_foldl_insert [DecidableEq α] (key : γ → α) (value : γ → β) (es : List γ)
    (m : ExtTreeMap α β cmp) (k : α) :
    (es.foldl (fun m e => m.insert (key e) (value e)) m)[k]? =
      ((es.findRev? fun e => decide (key e = k)).map value).or m[k]? := by
  rw [getElem?_foldl fun m e => getElem?_insert_eq m (key e) k (value e)]
  cases es.findRev? fun e => decide (key e = k) <;> rfl

theorem getElem?_foldl_erase [DecidableEq α] (ks : List α) (m : ExtTreeMap α β cmp) (k : α) :
    (ks.foldl (fun m k => m.erase k) m)[k]? = if k ∈ ks then none else m[k]? := by
  induction ks generalizing m with
  | nil => simp
  | cons k' ks ih =>
    rw [List.foldl_cons, ih, getElem?_erase_eq]
    by_cases h : k' = k
    · simp [h]
    · simp [h, Ne.symm h]

theorem findRev?_eq_some_iff [DecidableEq α] {es : List (α × β)}
    (hes : es.Pairwise fun a b => a.1 ≠ b.1) {k : α} {v : β} :
    (es.findRev? fun e => decide (e.1 = k)).map Prod.snd = some v ↔ (k, v) ∈ es := by
  rw [Option.map_eq_some_iff]
  constructor
  · rintro ⟨e, hf, rfl⟩
    obtain ⟨hm, rfl⟩ := (Itemwise.findRev?_key_eq_some_iff Prod.fst hes).mp hf
    exact hm
  · intro hm
    exact ⟨(k, v), (Itemwise.findRev?_key_eq_some_iff Prod.fst hes).mpr ⟨hm, rfl⟩, rfl⟩

/-- Entries put in where there is none yet: of those with one key the first counts. -/
theorem getElem?_foldl_insertIfNew [DecidableEq α] (key : β → α) (es : List β)
    (m : ExtTreeMap α β cmp) (k : α) :
    (es.foldl (fun m e => m.insertIfNew (key e) e) m)[k]? =
      m[k]?.or (es.find? fun e => decide (key e = k)) := by
  induction es generalizing m with
  | nil => simp
  | cons e es ih =>
    rw [List.foldl_cons, ih, ExtTreeMap.getElem?_insertIfNew, List.find?_cons]
    have hcmp : cmp (key e) k = .eq ↔ key e = k := LawfulEqCmp.compare_eq_iff_eq
    by_cases hk : key e = k
    · rw [decide_eq_true hk]
      cases hm : m[k]? with
      | none =>
        have hnew : key e ∉ m := hk ▸ (getElem?_eq_none_iff m k).mp hm
        rw [if_pos ⟨hcmp.mpr hk, hnew⟩]
        rfl
      | some v =>
        have hold : key e ∈ m := hk ▸ (ExtTreeMap.getElem?_eq_some_iff.mp hm).1
        rw [if_neg (fun h => h.2 hold)]
        rfl
    · rw [decide_eq_false hk, if_neg (fun h => hk (hcmp.mp h.1))]

/-- A map made of entries with keys that differ holds just these entries. -/
theorem getElem?_ofEntries [DecidableEq α] {es : List (α × β)}
    (hes : es.Pairwise fun a b => a.1 ≠ b.1) {k : α} {v : β} :
    (es.foldl (fun m e => m.insert e.1 e.2) (∅ : ExtTreeMap α β cmp))[k]? = some v ↔
      (k, v) ∈ es := by
  rw [getElem?_foldl_insert Prod.fst Prod.snd, ExtTreeMap.getElem?_empty, Option.or_none,
    findRev?_eq_some_iff hes]

/-- What becomes of a map when something is put in for each entry of another one. -/
theorem getElem?_foldl_toList [DecidableEq α] (m : ExtTreeMap α β cmp) (f : β → γ)
    (m' : ExtTreeMap α γ cmp) (k : α) :
    (m.toList.foldl (fun m' e => m'.insert e.1 (f e.2)) m')[k]? = (m[k]?.map f).or m'[k]? := by
  have hes : m.toList.Pairwise fun a b => a.1 ≠ b.1 :=
    (ExtTreeMap.distinct_keys_toList (t := m)).imp fun h he =>
      h (LawfulEqCmp.compare_eq_iff_eq.mpr he)
  have hfind : (m.toList.findRev? fun e => decide (e.1 = k)).map Prod.snd = m[k]? := by
    ext v
    rw [findRev?_eq_some_iff hes]
    exact ExtTreeMap.mem_toList_iff_getElem?_eq_some
  rw [getElem?_foldl_insert Prod.fst fun e => f e.2, ← hfind, Option.map_map]
  rfl

/-- The entries of a map give the map back. -/
theorem ofEntries_toList [DecidableEq α] (m : ExtTreeMap α β cmp) :
    m.toList.foldl (fun m e => m.insert e.1 e.2) ∅ = m := by
  have hes : m.toList.Pairwise fun a b => a.1 ≠ b.1 :=
    (ExtTreeMap.distinct_keys_toList (t := m)).imp fun h he =>
      h (LawfulEqCmp.compare_eq_iff_eq.mpr he)
  ext k v
  rw [getElem?_ofEntries hes]
  exact ExtTreeMap.mem_toList_iff_getElem?_eq_some

/-- The values of a map that tell their own keys tell different ones. -/
theorem pairwise_values (key : β → α) {m : ExtTreeMap α β cmp}
    (hkey : ∀ k v, m[k]? = some v → key v = k) :
    m.values.Pairwise fun a b => key a ≠ key b := by
  rw [values_eq_map_toList, List.pairwise_map]
  refine List.Pairwise.imp_of_mem ?_ (ExtTreeMap.distinct_keys_toList (t := m))
  intro a b ha hb hab h
  have hka := hkey a.1 a.2 (ExtTreeMap.mem_toList_iff_getElem?_eq_some.mp ha)
  have hkb := hkey b.1 b.2 (ExtTreeMap.mem_toList_iff_getElem?_eq_some.mp hb)
  exact hab (LawfulEqCmp.compare_eq_iff_eq.mpr (by rw [← hka, ← hkb, h]))

/-- The values of a map that tell their own keys are listed in the order of these. -/
theorem ordered_values (key : β → α) {m : ExtTreeMap α β cmp}
    (hkey : ∀ k v, m[k]? = some v → key v = k) :
    m.values.Pairwise fun a b => cmp (key a) (key b) = .lt := by
  rw [values_eq_map_toList, List.pairwise_map]
  refine List.Pairwise.imp_of_mem ?_ (ExtTreeMap.ordered_keys_toList (t := m))
  intro a b ha hb hab
  rw [hkey a.1 a.2 (ExtTreeMap.mem_toList_iff_getElem?_eq_some.mp ha),
    hkey b.1 b.2 (ExtTreeMap.mem_toList_iff_getElem?_eq_some.mp hb)]
  exact hab

/-- The values of a map that tell their own keys are the members of any list without repeated keys
that the map holds. -/
theorem values_perm (key : β → α) {m : ExtTreeMap α β cmp} {vs : List β}
    (hkey : ∀ k v, m[k]? = some v → key v = k) (hvs : vs.Pairwise fun a b => key a ≠ key b)
    (hmem : ∀ v, v ∈ vs ↔ m[key v]? = some v) : m.values.Perm vs := by
  have hnodup : ∀ {l : List β}, l.Pairwise (fun a b => key a ≠ key b) → l.Nodup :=
    fun h => h.imp fun hab he => hab (congrArg key he)
  refine (List.perm_ext_iff_of_nodup (hnodup (pairwise_values key hkey)) (hnodup hvs)).mpr
    fun v => ?_
  rw [mem_values, hmem]
  constructor
  · rintro ⟨k, h⟩
    rwa [hkey k v h]
  · exact fun h => ⟨key v, h⟩

/-- A value that is put in takes the place of the one that was there. -/
theorem values_insert_perm [DecidableEq α] (key : β → α) {m : ExtTreeMap α β cmp}
    (hkey : ∀ k v, m[k]? = some v → key v = k) (v : β) :
    (m[key v]?.toList ++ (m.insert (key v) v).values).Perm (v :: m.values) := by
  -- what stays where it is
  let rest := m.values.filter fun w => decide (key w ≠ key v)
  have hrest : rest.Pairwise fun a b => key a ≠ key b := (pairwise_values key hkey).filter _
  have hmem : ∀ w, w ∈ rest ↔ key w ≠ key v ∧ m[key w]? = some w := by
    intro w
    rw [List.mem_filter, decide_eq_true_iff, mem_values]
    constructor
    · rintro ⟨⟨k, hk⟩, hne⟩
      exact ⟨hne, hkey k w hk ▸ hk⟩
    · exact fun ⟨hne, hw⟩ => ⟨⟨_, hw⟩, hne⟩
  have hinsert : (m.insert (key v) v).values.Perm (v :: rest) := by
    refine values_perm key (fun k w hw => ?_) (List.pairwise_cons.mpr ⟨fun w hw => ?_, hrest⟩)
      fun w => ?_
    · rw [getElem?_insert_eq] at hw
      split at hw
      · cases hw
        assumption
      · exact hkey k w hw
    · exact ((hmem w).mp hw).1.symm
    · rw [List.mem_cons, hmem, getElem?_insert_eq]
      by_cases hw : key v = key w
      · simp [hw, eq_comm]
      · have hne : w ≠ v := fun h => hw (congrArg key h).symm
        simp [hw, Ne.symm hw, hne]
  cases hold : m[key v]? with
  | none =>
    have hall : rest = m.values := by
      refine List.filter_eq_self.mpr fun w hw => decide_eq_true fun hk => ?_
      obtain ⟨k, hmk⟩ := mem_values.mp hw
      rw [← hkey k w hmk, hk, hold] at hmk
      cases hmk
    rw [hall] at hinsert
    exact hinsert
  | some old =>
    have hkold := hkey _ _ hold
    have hvalues : m.values.Perm (old :: rest) := by
      refine values_perm key hkey (List.pairwise_cons.mpr ⟨fun w hw => ?_, hrest⟩) fun w => ?_
      · rw [hkold]
        exact ((hmem w).mp hw).1.symm
      · rw [List.mem_cons, hmem]
        by_cases hw : key w = key v
        · rw [hw, hold]
          simp [eq_comm]
        · have hne : w ≠ old := fun h => hw (h ▸ hkold)
          simp [hw, hne]
    exact ((hinsert.cons old).trans (.swap v old rest)).trans (hvalues.symm.cons v)

/-- Maps whose values are alike under each key list them alike. -/
theorem map_values_eq {γ : Type} {f : β → γ} {m m' : ExtTreeMap α β cmp}
    (h : ∀ k : α, m'[k]?.map f = m[k]?.map f) : m'.values.map f = m.values.map f := by
  have hsame : m'.map (fun _ => f) = m.map fun _ => f := by
    ext k : 1
    rw [ExtTreeMap.getElem?_map, ExtTreeMap.getElem?_map, h k]
  have hvalues : ∀ m : ExtTreeMap α β cmp, (m.map fun _ => f).values = m.values.map f := by
    intro m
    rw [values_eq_map_toList, values_eq_map_toList, ExtTreeMap.toList_map, List.map_map,
      List.map_map]
    rfl
  rw [← hvalues, hsame, hvalues]

/-- Maps whose values are related under each key list related values. -/
theorem forall₂_values {r : β → γ → Prop} {m : ExtTreeMap α β cmp} {m' : ExtTreeMap α γ cmp}
    (h : ∀ k : α, Option.Rel r m[k]? m'[k]?) : List.Forall₂ r m.values m'.values := by
  have hlisted : ∀ {δ : Type} (t : ExtTreeMap α δ cmp),
      t.values.map some = t.keys.map fun k => t[k]? := by
    intro δ t
    rw [values_eq_map_toList, ← ExtTreeMap.map_fst_toList_eq_keys, List.map_map, List.map_map]
    refine List.map_congr_left fun e he => ?_
    exact (ExtTreeMap.mem_toList_iff_getElem?_eq_some.mp he).symm
  have hkeys : m.keys = m'.keys := by
    refine keys_eq_keys fun k => ?_
    rw [ExtTreeMap.mem_iff_isSome_getElem?, ExtTreeMap.mem_iff_isSome_getElem?]
    have hk := h k
    generalize m[k]? = v, m'[k]? = v' at hk ⊢
    cases hk with
    | none => exact Iff.rfl
    | some _ => exact Iff.rfl
  have hsome : List.Forall₂ (Option.Rel r) (m.values.map some) (m'.values.map some) := by
    rw [hlisted, hlisted, hkeys, List.forall₂_map_left_iff, List.forall₂_map_right_iff,
      List.forall₂_same]
    exact fun k _ => h k
  rw [List.forall₂_map_left_iff, List.forall₂_map_right_iff] at hsome
  exact hsome.imp fun _ _ => Option.rel_some_some.mp

end ClusterFeed.KeyedMap
