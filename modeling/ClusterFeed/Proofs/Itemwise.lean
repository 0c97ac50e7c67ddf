import Mathlib.Data.List.Forall2
import Mathlib.Data.List.Pairwise

/-!
# Lists, item by item

A list that is computed item by item is had only when every one of its items is had, and then its
items are those. The last item of a list that passes a test is what counts where later items
overwrite earlier ones.
-/

namespace ClusterFeed.Itemwise

variable {α β : Type} {f : α → Option β}

theorem mapM_eq_some_iff {as : List α} {bs : List β} :
    as.mapM f = some bs ↔ List.Forall₂ (fun a b => f a = some b) as bs := by
  induction as generalizing bs with
  | nil =>
    rw [List.forall₂_nil_left_iff]
    show some [] = some bs ↔ bs = []
    rw [Option.some_inj, eq_comm]
  | cons a as ih =>
    rw [List.mapM_cons, List.forall₂_cons_left_iff]
    show (f a).bind (fun b => (as.mapM f).bind fun bs => some (b :: bs)) = some bs ↔ _
    rw [Option.bind_eq_some_iff]
    constructor
    · rintro ⟨b, hb, h⟩
      obtain ⟨bs', hbs', h⟩ := Option.bind_eq_some_iff.mp h
      cases h
      exact ⟨b, bs', hb, ih.mp hbs', rfl⟩
    · rintro ⟨b, bs', hb, hbs', rfl⟩
      exact ⟨b, hb, Option.bind_eq_some_iff.mpr ⟨bs', ih.mpr hbs', rfl⟩⟩

/-- When every item is had, the list is had. -/
theorem exists_mapM {as : List α} (h : ∀ a ∈ as, ∃ b, f a = some b) :
    ∃ bs, as.mapM f = some bs := by
  simp only [mapM_eq_some_iff]
  induction as with
  | nil => exact ⟨[], .nil⟩
  | cons a as ih =>
    obtain ⟨b, hb⟩ := h a List.mem_cons_self
    obtain ⟨bs, hbs⟩ := ih fun a ha => h a (List.mem_cons_of_mem _ ha)
    exact ⟨b :: bs, .cons hb hbs⟩

/-- Each item of the outcome comes from an item of the list. -/
theorem exists_of_mem {as : List α} {bs : List β} (h : as.mapM f = some bs) {b : β} (hb : b ∈ bs) :
    ∃ a ∈ as, f a = some b := by
  have hall := mapM_eq_some_iff.mp h
  clear h
  induction hall with
  | nil => cases hb
  | cons hab _ ih =>
    rcases List.mem_cons.mp hb with rfl | hb
    · exact ⟨_, List.mem_cons_self, hab⟩
    · obtain ⟨a, ha, hf⟩ := ih hb
      exact ⟨a, List.mem_cons_of_mem _ ha, hf⟩

theorem filterMap_eq {γ : Type} {g : γ → Option β} {as : List α} {cs : List γ}
    (h : List.Forall₂ (fun a c => f a = g c) as cs) : as.filterMap f = cs.filterMap g := by
  induction h with
  | nil => rfl
  | cons hac _ ih => rw [List.filterMap_cons, List.filterMap_cons, hac, ih]

/-- An item keeps its place when others come after it. -/
theorem getElem?_append_of_some {as : List α} {n : Nat} {a : α} (h : as[n]? = some a)
    (as' : List α) : (as ++ as')[n]? = some a := by
  rw [List.getElem?_append_left (List.getElem?_eq_some_iff.mp h).1, h]

/-- A test that says the same of all items that are looked for may as well be made at the end. -/
theorem find?_filter_eq {p q : α → Bool} (h : ∀ a b, q a = true → q b = true → p a = p b)
    (as : List α) : (as.filter p).find? q = (as.find? q).filter p := by
  induction as with
  | nil => rfl
  | cons a as ih =>
    cases hq : q a with
    | false =>
      rw [List.find?_cons_of_neg (by simp [hq]), ← ih, List.filter_cons]
      split
      · rw [List.find?_cons_of_neg (by simp [hq])]
      · rfl
    | true =>
      rw [List.find?_cons_of_pos hq]
      cases hp : p a with
      | true =>
        rw [List.filter_cons_of_pos hp, List.find?_cons_of_pos hq, Option.filter_some_pos hp]
      | false =>
        rw [List.filter_cons_of_neg (by simp [hp]), Option.filter_some_neg hp, List.find?_eq_none]
        intro b hb hqb
        rw [h a b hq hqb, (List.mem_filter.mp hb).2] at hp
        cases hp

/-! ## The last item that passes a test -/

variable {p : α → Bool}

theorem findRev?_cons (a : α) (as : List α) (p : α → Bool) :
    (a :: as).findRev? p = (as.findRev? p).or (if p a then some a else none) := by
  rw [List.findRev?]
  cases as.findRev? p with
  | some b => rfl
  | none => cases p a <;> rfl

theorem findRev?_append (as as' : List α) (p : α → Bool) :
    (as ++ as').findRev? p = (as'.findRev? p).or (as.findRev? p) := by
  rw [List.findRev?_eq_find?_reverse, List.findRev?_eq_find?_reverse,
    List.findRev?_eq_find?_reverse, List.reverse_append, List.find?_append]

theorem mem_of_findRev? {as : List α} {a : α} (h : as.findRev? p = some a) :
    a ∈ as ∧ p a = true := by
  rw [List.findRev?_eq_find?_reverse] at h
  exact ⟨List.mem_reverse.mp (List.mem_of_find?_eq_some h), List.find?_some h⟩

theorem findRev?_eq_none_iff {as : List α} : as.findRev? p = none ↔ ∀ a ∈ as, ¬ p a = true := by
  rw [List.findRev?_eq_find?_reverse, List.find?_eq_none]
  simp only [List.mem_reverse]

/-- Of items with keys that differ just the one with the key is found. -/
theorem findRev?_key_eq_some_iff {κ : Type} [DecidableEq κ] (key : α → κ) {as : List α}
    (has : as.Pairwise fun a b => key a ≠ key b) {k : κ} {a : α} :
    (as.findRev? fun a => decide (key a = k)) = some a ↔ a ∈ as ∧ key a = k := by
  constructor
  · intro h
    obtain ⟨hm, hk⟩ := mem_of_findRev? h
    exact ⟨hm, of_decide_eq_true hk⟩
  · rintro ⟨hm, hk⟩
    cases hf : as.findRev? fun a => decide (key a = k) with
    | none => exact absurd (decide_eq_true hk) (findRev?_eq_none_iff.mp hf a hm)
    | some a' =>
      obtain ⟨hm', hk'⟩ := mem_of_findRev? hf
      have hsymm : Std.Symm fun a b : α => key a ≠ key b := ⟨fun _ _ h => h.symm⟩
      by_cases heq : a' = a
      · rw [heq]
      · exact absurd ((of_decide_eq_true hk').trans hk.symm) (has.forall hm' hm heq)

end ClusterFeed.Itemwise
