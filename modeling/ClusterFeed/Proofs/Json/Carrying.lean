import ClusterFeed.Proofs.Json.Variation
import ClusterFeed.Proofs.KeyedMap

/-!
# What is written is read

A decoder reads back what was written of a value, however the records of the text are written and
wherever the value stands in the text. Texts, truth values, integers and maps are read back, and so
are arrays and records of what is.
-/

namespace ClusterFeed.Json

variable {α : Type}

/-- The values that are `ok` are written as JSON and read back from it, with the records of the
layout written in any way, as long as `room` levels of nesting are left. -/
structure Carries (room : Nat) (l : Layout) (write : α → Json) (read : Decoder α) (ok : α → Prop) :
    Prop where
  /-- The text of a value is one in JSON. -/
  spellable : ∀ a, ok a → (write a).Spellable
  /-- What is read is the value. -/
  reads : ∀ a, ok a → ∀ p, Varied l (write a).phrase p → ∀ depth, depth + room ≤ maxDepth →
    read (p.tree depth) = some a

/-- The serialised text of a value is read as the value, and so is every text in which the fields of
its records are permuted or unknown fields are added to them. -/
def RoundTrips (l : Layout) (write : α → Json) (read : Decoder α) (ok : α → Prop) : Prop :=
  ∀ a, ok a → read.read? (Text.unitsOf (render (write a))) = some a ∧
    ∀ p cs, Varied l (write a).phrase p → Spells p.tokens cs → read.read? (cs.map some) = some a

theorem Carries.roundTrips {room : Nat} {l : Layout} {write : α → Json} {read : Decoder α}
    {ok : α → Prop} (h : Carries room l write read ok) (hroom : room ≤ maxDepth) :
    RoundTrips l write read ok := by
  intro a ha
  have hread : ∀ p cs, Varied l (write a).phrase p → Spells p.tokens cs →
      read.read? (cs.map some) = some a := by
    intro p cs hp hcs
    unfold Decoder.read?
    rw [parse?_of_spells hcs]
    exact h.reads a ha p hp 0 (by omega)
  exact ⟨hread _ _ (.same l _) (spells_render (h.spellable a ha)), hread⟩

/-! ## Values without records -/

theorem Varied.eq_of_plain {p q : Phrase} (h : Varied .plain p q) : q = p := by
  cases h
  rfl

/-- Where no records stand, only the value itself is to be read back. -/
theorem carries_plain {room : Nat} {write : α → Json} {read : Decoder α} {ok : α → Prop}
    (hspell : ∀ a, ok a → (write a).Spellable)
    (hread : ∀ a, ok a → ∀ depth, depth + room ≤ maxDepth →
      read ((write a).phrase.tree depth) = some a) : Carries room .plain write read ok where
  spellable := hspell
  reads a ha p hp depth hdepth := by
    rw [hp.eq_of_plain]
    exact hread a ha depth hdepth

theorem carries_text : Carries 0 .plain .str Decode.text fun _ => True :=
  carries_plain (fun s _ => spellable_str s) fun s _ depth _ => by
    rw [phrase, Phrase.tree, Decode.text]

theorem carries_bool : Carries 0 .plain .bool Decode.bool fun _ => True :=
  carries_plain (fun b _ => spellable_bool b) fun b _ depth _ => by
    rw [phrase, Phrase.tree, Decode.bool]

@[simp] theorem Number.toInt?_ofInt (i : Int) : (Number.ofInt i).toInt? = some i := by
  cases i with
  | ofNat n => simp [Number.ofInt, Number.toInt?]
  | negSucc n => simp [Number.ofInt, Number.toInt?, Int.negSucc_eq]

/-- An integer of 64 bits is kept as it is. -/
theorem Number.kept?_ofInt {i : Int} (h : -9223372036854775808 ≤ i ∧ i ≤ 18446744073709551615) :
    (Number.ofInt i).kept? = some (Number.ofInt i) := by
  have hint : (Number.ofInt i).isInt64 = true := by simp [Number.isInt64, h]
  rw [Number.kept?, if_pos hint]

theorem intBetween_ofInt {low high i : Int} (hlow : -9223372036854775808 ≤ low)
    (hhigh : high ≤ 18446744073709551615) (hi : low ≤ i ∧ i ≤ high) (depth : Nat) :
    Decode.intBetween low high ((int i).phrase.tree depth) = some i := by
  rw [int, phrase, Phrase.tree, Number.kept?_ofInt ⟨by omega, by omega⟩]
  simp [Decode.intBetween, hi]

/-- The integers of 64 bits. -/
def IsInt64 (i : Int) : Prop := -9223372036854775808 ≤ i ∧ i ≤ 9223372036854775807

/-- The natural numbers of 64 bits. -/
def IsNat64 (n : Nat) : Prop := n ≤ 18446744073709551615

theorem carries_int64 : Carries 0 .plain int Decode.int64 IsInt64 :=
  carries_plain (fun i _ => spellable_int i) fun _ hi depth _ =>
    intBetween_ofInt (by decide) (by decide) hi depth

theorem carries_nat64 : Carries 0 .plain nat Decode.nat64 IsNat64 :=
  carries_plain (fun n _ => spellable_nat n) fun n hn depth _ => by
    have hbounds : 0 ≤ (n : Int) ∧ (n : Int) ≤ 18446744073709551615 := by
      unfold IsNat64 at hn
      omega
    have hread := intBetween_ofInt (by decide) (Int.le_refl _) hbounds depth
    show (Decode.intBetween _ _ ((int n).phrase.tree depth)).map Int.toNat = some n
    rw [hread]
    rfl

/-- Maps of texts are read back. -/
theorem carries_map : Carries 1 .plain TextMap.toJson (Decode.map Decode.text) fun _ => True :=
  carries_plain
    (fun m _ => by
      rw [TextMap.toJson, spellable_obj]
      exact List.forall_mem_map.mpr fun e _ => spellable_str e.2)
    fun m _ depth hdepth => by
      have hentries : Decode.entries Decode.text ((TextMap.toJson m).phrase.tree depth) =
          some m.toList := by
        rw [TextMap.toJson, phrase, Phrase.tree, if_pos (by omega), fieldPhrases_eq_map,
          Phrase.fieldTrees_eq_map, List.map_map, List.map_map]
        refine Itemwise.mapM_eq_some_iff.mpr ?_
        rw [List.forall₂_map_left_iff]
        refine List.forall₂_same.mpr fun e _ => ?_
        simp [phrase, Phrase.tree, Decode.text]
      rw [Decode.map, hentries, Option.map_some, KeyedMap.ofEntries_toList]

/-! ## Arrays -/

section

variable {room : Nat} {l : Layout} {write : α → Json} {read : Decoder α} {ok : α → Prop}

theorem Carries.mapM_items (h : Carries room l write read ok) {as : List α} (has : ∀ a ∈ as, ok a)
    {qs : List Phrase} (hqs : VariedItems l (itemPhrases (as.map write)) qs) {depth : Nat}
    (hdepth : depth + room ≤ maxDepth) : (Phrase.itemTrees depth qs).mapM read = some as := by
  induction as generalizing qs with
  | nil =>
    rw [List.map_nil, itemPhrases] at hqs
    cases hqs
    rw [Phrase.itemTrees]
    rfl
  | cons a as ih =>
    obtain ⟨ha, has⟩ := List.forall_mem_cons.mp has
    rw [List.map_cons, itemPhrases] at hqs
    cases hqs with
    | cons hq hrest =>
      rw [Phrase.itemTrees, List.mapM_cons, h.reads a ha _ hq depth hdepth, ih has hrest]
      rfl

theorem VariedItems.refl (l : Layout) (ps : List Phrase) : VariedItems l ps ps := by
  induction ps with
  | nil => exact .nil l
  | cons p ps ih => exact .cons (.same l p) ih

/-- Arrays are read back item by item. -/
theorem Carries.list (h : Carries room l write read ok) :
    Carries (room + 1) (.list l) (fun as => .arr (as.map write)) (Decode.list read)
      fun as => ∀ a ∈ as, ok a where
  spellable as has := by
    rw [spellable_arr]
    exact List.forall_mem_map.mpr fun a ha => h.spellable a (has a ha)
  reads as has p hp depth hdepth := by
    obtain ⟨qs, rfl, hqs⟩ : ∃ qs, p = .arr qs ∧ VariedItems l (itemPhrases (as.map write)) qs := by
      rw [phrase] at hp
      cases hp with
      | same => exact ⟨_, rfl, .refl l _⟩
      | list h => exact ⟨_, rfl, h⟩
    rw [Phrase.tree, if_pos (by omega), Decode.list]
    exact h.mapM_items has hqs (by omega)

theorem carries_texts : Carries 1 .plain texts (Decode.list Decode.text) fun _ => True :=
  carries_plain (fun ss _ => carries_text.list.spellable ss fun _ _ => trivial)
    fun ss _ depth hdepth =>
      carries_text.list.reads ss (fun _ _ => trivial) _ (.same _ _) depth hdepth

/-! ## The fields of records -/

variable {depth : Nat} {s : Slot}

theorem Carries.required (h : Carries room l write read ok) {a : α} (ha : ok a)
    (hdepth : depth + room ≤ maxDepth) (hs : Filled l depth (some (write a)) s) :
    s.required read = some a := by
  cases hs with
  | given hp => exact h.reads a ha _ hp depth hdepth

theorem Carries.orElse (h : Carries room l write read ok) {a : α} (ha : ok a)
    (hdepth : depth + room ≤ maxDepth) (hs : Filled l depth (some (write a)) s) (dflt : α) :
    s.orElse dflt read = some a := by
  cases hs with
  | given hp => exact h.reads a ha _ hp depth hdepth

/-- What is read from a value that is not the absent one is an optional value that is there. -/
theorem option_of_read (hnull : read .null = none) {t : Tree} {a : α} (ht : read t = some a) :
    Decode.option read t = some (some a) := by
  rw [Decode.option.eq_def]
  split
  · rw [hnull] at ht
    cases ht
  · rw [ht]
    rfl

/-- A field that is left out without a value. -/
theorem Carries.optional (h : Carries room l write read ok) (hnull : read .null = none)
    {o : Option α} (ho : ∀ a ∈ o, ok a) (hdepth : depth + room ≤ maxDepth)
    (hs : Filled l depth (o.map write) s) : s.optional read = some o := by
  cases o with
  | none =>
    cases hs
    rfl
  | some a =>
    cases hs with
    | given hp => exact option_of_read hnull (h.reads a (ho a rfl) _ hp depth hdepth)

/-- A field that is written as the absent value without a value. -/
theorem Carries.nullable (h : Carries room l write read ok) (hnull : read .null = none)
    {o : Option α} (ho : ∀ a ∈ o, ok a) (hdepth : depth + room ≤ maxDepth)
    (hs : Filled l depth (some (orNull write o)) s) : s.nullable read = some o := by
  cases o with
  | none =>
    cases hs with
    | given hp =>
      rw [orNull, phrase] at hp
      cases hp
      rw [Phrase.tree]
      rfl
  | some a =>
    cases hs with
    | given hp => exact option_of_read hnull (h.reads a (ho a rfl) _ hp depth hdepth)

theorem Carries.spellable_orNull (h : Carries room l write read ok) {o : Option α}
    (ho : ∀ a ∈ o, ok a) : (orNull write o).Spellable := by
  cases o with
  | none => exact spellable_null
  | some a => exact h.spellable a (ho a rfl)

theorem Carries.spellable_map (h : Carries room l write read ok) {o : Option α}
    (ho : ∀ a ∈ o, ok a) : ∀ j ∈ o.map write, j.Spellable := by
  intro j hj
  obtain ⟨a, ha, rfl⟩ := Option.map_eq_some_iff.mp hj
  exact h.spellable a (ho a ha)

theorem spellable_present {es : List (String × Option Json)}
    (h : ∀ e ∈ es, ∀ j ∈ e.2, Spellable j) : (obj (present es)).Spellable := by
  rw [spellable_obj]
  intro f hf
  obtain ⟨e, he, hef⟩ := List.mem_filterMap.mp hf
  obtain ⟨j, hj, rfl⟩ := Option.map_eq_some_iff.mp hef
  exact h e he j hj

end

end ClusterFeed.Json
