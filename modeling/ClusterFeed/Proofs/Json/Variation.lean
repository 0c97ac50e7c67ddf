import ClusterFeed.Json.Decode
import ClusterFeed.Proofs.Itemwise
import ClusterFeed.Proofs.Json.Printing
import Mathlib.Data.List.Nodup

/-!
# Records that are written differently

The fields of a record may come in any order, and among fields that nobody knows. A layout tells
where the records of a type stand. The slots of a record do not depend on how it is written.
-/

namespace ClusterFeed.Json

/-- Where the records of a type stand. -/
inductive Layout where
  /-- No record at all. -/
  | plain
  /-- An array whose items have one layout. -/
  | list (item : Layout)
  /-- A record; its known fields, with the layouts of their values. -/
  | record (known : List (String × Layout))

/-- The layout of the values of a field. -/
def Layout.of (known : List (String × Layout)) (name : String) : Layout :=
  (known.lookup name).getD .plain

mutual

/-- One phrase is another one with the fields of records permuted and unknown fields added. -/
inductive Varied : Layout → Phrase → Phrase → Prop
  /-- Nothing is different. -/
  | same (l : Layout) (p : Phrase) : Varied l p p
  /-- The items of an array are varied. -/
  | list {l : Layout} {ps qs : List Phrase} (h : VariedItems l ps qs) :
      Varied (.list l) (.arr ps) (.arr qs)
  /-- The values of the fields are varied, unknown fields with any values are added, and all fields
  are put in another order. -/
  | record {known : List (String × Layout)} {fs gs added hs : List (Option String × Phrase)}
      (h : VariedFields known fs gs)
      (hadded : ∀ f ∈ added, ∃ name ∉ known.map Prod.fst, f.1 = some name)
      (hperm : hs.Perm (gs ++ added)) : Varied (.record known) (.obj fs) (.obj hs)

/-- The items of an array, varied one by one. -/
inductive VariedItems : Layout → List Phrase → List Phrase → Prop
  | nil (l : Layout) : VariedItems l [] []
  | cons {l : Layout} {p q : Phrase} {ps qs : List Phrase} (h : Varied l p q)
      (hrest : VariedItems l ps qs) : VariedItems l (p :: ps) (q :: qs)

/-- The values of fields, varied one by one. -/
inductive VariedFields : List (String × Layout) → List (Option String × Phrase) →
    List (Option String × Phrase) → Prop
  | nil (known : List (String × Layout)) : VariedFields known [] []
  | cons {known : List (String × Layout)} {name : String} {p q : Phrase}
      {fs gs : List (Option String × Phrase)} (h : Varied (.of known name) p q)
      (hrest : VariedFields known fs gs) :
      VariedFields known ((some name, p) :: fs) ((some name, q) :: gs)

end

/-! ## Fields by their names -/

/-- Where a name comes once at most, the order of the fields does not matter. -/
theorem lookup_eq_of_perm {κ α : Type} [BEq κ] [LawfulBEq κ] {fs gs : List (κ × α)}
    (h : fs.Perm gs) {k : κ} (hone : fs.countP (·.1 == k) ≤ 1) : fs.lookup k = gs.lookup k := by
  induction h with
  | nil => rfl
  | cons f _ ih =>
    rw [List.lookup_cons, List.lookup_cons]
    rw [List.countP_cons] at hone
    split
    · rfl
    · exact ih (by omega)
  | swap f g fs =>
    rw [List.countP_cons, List.countP_cons] at hone
    obtain ⟨a, v⟩ := f
    obtain ⟨b, w⟩ := g
    simp only [List.lookup_cons]
    -- only one of the two names can be the one that is looked for
    by_cases ha : a = k
    · have hb : (k == b) = false := by
        refine beq_eq_false_iff_ne.mpr fun hb => ?_
        simp only [ha, ← hb, BEq.rfl, if_true] at hone
        omega
      rw [hb]
    · rw [beq_eq_false_iff_ne.mpr (Ne.symm ha)]
  | trans h₁ _ ih₁ ih₂ => exact (ih₁ hone).trans (ih₂ (h₁.countP_eq _ ▸ hone))

theorem countP_name_le_one {α : Type} {fs : List (String × α)} (h : (fs.map Prod.fst).Nodup)
    (name : String) : fs.countP (·.1 == name) ≤ 1 := by
  have hcount := List.nodup_iff_count_le_one.mp h name
  rw [List.count_eq_countP, List.countP_map] at hcount
  exact hcount

theorem lookup_fieldPhrases (fs : List (String × Json)) (name : String) :
    (fieldPhrases fs).lookup (some name) = (fs.lookup name).map phrase := by
  induction fs with
  | nil =>
    rw [fieldPhrases]
    rfl
  | cons f fs ih =>
    rw [fieldPhrases, List.lookup_cons, List.lookup_cons, Option.some_beq_some, ih]
    cases name == f.1 <;> rfl

theorem countP_fieldPhrases (fs : List (String × Json)) (name : String) :
    (fieldPhrases fs).countP (·.1 == some name) = fs.countP (·.1 == name) := by
  rw [fieldPhrases_eq_map, List.countP_map]
  rfl

theorem lookup_fieldTrees (depth : Nat) (fs : List (Option String × Phrase)) (k : Option String) :
    (Phrase.fieldTrees depth fs).lookup k = (fs.lookup k).map (Phrase.tree depth) := by
  induction fs with
  | nil =>
    rw [Phrase.fieldTrees]
    rfl
  | cons f fs ih =>
    rw [Phrase.fieldTrees, List.lookup_cons, List.lookup_cons, ih]
    cases k == f.1 <;> rfl

/-- When all names denote characters, the fields are known by them. -/
theorem exists_named {ts : List (Option String × Tree)} (h : ∀ t ∈ ts, ∃ name, t.1 = some name) :
    ∃ fs : List (String × Tree), ts.mapM (fun t => t.1.map (·, t.2)) = some fs ∧
      ∀ name : String, fs.countP (·.1 == name) = ts.countP (·.1 == some name) ∧
        fs.lookup name = ts.lookup (some name) := by
  obtain ⟨fs, hfs⟩ := Itemwise.exists_mapM (f := fun t : Option String × Tree => t.1.map (·, t.2))
    fun t ht => by
      obtain ⟨name, hname⟩ := h t ht
      exact ⟨(name, t.2), by rw [hname]; rfl⟩
  refine ⟨fs, hfs, fun name => ?_⟩
  have hall := Itemwise.mapM_eq_some_iff.mp hfs
  clear h hfs
  induction hall with
  | nil => exact ⟨rfl, rfl⟩
  | @cons t f ts fs htf _ ih =>
    obtain ⟨k, hk, rfl⟩ := Option.map_eq_some_iff.mp htf
    rw [List.countP_cons, List.countP_cons, List.lookup_cons, List.lookup_cons, hk, ih.1, ih.2]
    exact ⟨rfl, rfl⟩

/-! ## Varied fields -/

namespace VariedFields

variable {known : List (String × Layout)} {fs gs : List (Option String × Phrase)}

theorem refl (known : List (String × Layout)) (fs : List (String × Json)) :
    VariedFields known (fieldPhrases fs) (fieldPhrases fs) := by
  induction fs with
  | nil =>
    rw [fieldPhrases]
    exact .nil known
  | cons f fs ih =>
    rw [fieldPhrases]
    exact .cons (.same _ _) ih

theorem named (h : VariedFields known fs gs) : ∀ g ∈ gs, ∃ name, g.1 = some name := by
  induction gs generalizing fs with
  | nil => exact nofun
  | cons g gs ih =>
    cases h with
    | cons h hrest => exact List.forall_mem_cons.mpr ⟨⟨_, rfl⟩, ih hrest⟩

theorem countP_eq (h : VariedFields known fs gs) (k : Option String) :
    gs.countP (·.1 == k) = fs.countP (·.1 == k) := by
  induction gs generalizing fs with
  | nil =>
    cases h
    rfl
  | cons g gs ih =>
    cases h with
    | cons h hrest => rw [List.countP_cons, List.countP_cons, ih hrest]

/-- The value of a name is varied, and it is there only if it was. -/
theorem lookup_eq (h : VariedFields known fs gs) (name : String) :
    (∃ p q, fs.lookup (some name) = some p ∧ gs.lookup (some name) = some q ∧
      Varied (.of known name) p q) ∨
      fs.lookup (some name) = none ∧ gs.lookup (some name) = none := by
  induction gs generalizing fs with
  | nil =>
    cases h
    exact .inr ⟨rfl, rfl⟩
  | cons g gs ih =>
    cases h with
    | @cons _ k p q fs gs h hrest =>
      by_cases hk : k = name
      · subst hk
        exact .inl ⟨p, q, by simp, by simp, h⟩
      · have hne : (some name == some k) = false := by simp [Ne.symm hk]
        simp only [List.lookup_cons, hne]
        exact ih hrest

end VariedFields

/-- An object whose fields are those of a record and unknown ones, in any order. -/
theorem Varied.of_perm {known : List (String × Layout)} {fs added hs : List (String × Json)}
    (hadded : ∀ f ∈ added, f.1 ∉ known.map Prod.fst) (hperm : hs.Perm (fs ++ added)) :
    Varied (.record known) (obj fs).phrase (obj hs).phrase := by
  have hphrases : (fieldPhrases hs).Perm (fieldPhrases fs ++ fieldPhrases added) := by
    simp only [fieldPhrases_eq_map, ← List.map_append]
    exact hperm.map _
  rw [phrase, phrase]
  refine .record (.refl known fs) ?_ hphrases
  rw [fieldPhrases_eq_map]
  exact List.forall_mem_map.mpr fun f hf => ⟨f.1, hadded f hf, rfl⟩

/-! ## The slots of a varied record -/

/-- A slot holds what a field of a value has become, or nothing if the value has no such field. -/
inductive Filled (l : Layout) (depth : Nat) : Option Json → Slot → Prop
  /-- The field is there. -/
  | given {j : Json} {p : Phrase} (h : Varied l j.phrase p) :
      Filled l depth (some j) (.given (p.tree depth))
  /-- The field is not there. -/
  | absent : Filled l depth none .absent

/-- A record that is written differently has the same slots. -/
theorem record?_of_varied {known : List (String × Layout)} {fs : List (String × Json)}
    (hfs : (fs.map Prod.fst).Nodup) {p : Phrase}
    (hp : Varied (.record known) (obj fs).phrase p) {depth room : Nat}
    (hdepth : depth + (room + 1) ≤ maxDepth) :
    ∃ slot : String → Slot, depth + 1 + room ≤ maxDepth ∧
      record? (known.map Prod.fst) (p.tree depth) = some ((known.map Prod.fst).map slot) ∧
        ∀ name ∈ known.map Prod.fst,
          Filled (.of known name) (depth + 1) (fs.lookup name) (slot name) := by
  obtain ⟨gs, added, hs, rfl, hgs, hadded, hperm⟩ : ∃ gs added hs, p = .obj hs ∧
      VariedFields known (fieldPhrases fs) gs ∧
      (∀ f ∈ added, ∃ name ∉ known.map Prod.fst, f.1 = some name) ∧ hs.Perm (gs ++ added) := by
    rw [phrase] at hp
    cases hp with
    | same => exact ⟨_, [], _, rfl, .refl known fs, nofun, by rw [List.append_nil]⟩
    | record h hadded hperm => exact ⟨_, _, _, rfl, h, hadded, hperm⟩
  have hnames : ∀ t ∈ Phrase.fieldTrees (depth + 1) hs, ∃ name, t.1 = some name := by
    rw [Phrase.fieldTrees_eq_map]
    refine List.forall_mem_map.mpr fun f hf => ?_
    rcases List.mem_append.mp (hperm.mem_iff.mp hf) with hf | hf
    · exact hgs.named f hf
    · obtain ⟨name, -, hname⟩ := hadded f hf
      exact ⟨name, hname⟩
  obtain ⟨ts, hts, hbyName⟩ := exists_named hnames
  -- a known name is found among the varied fields, never among the added ones
  have hnotAdded : ∀ name ∈ known.map Prod.fst, ∀ f ∈ added, f.1 ≠ some name := by
    intro name hname f hf heq
    obtain ⟨name', hname', hf'⟩ := hadded f hf
    rw [heq, Option.some_inj] at hf'
    exact hname' (hf' ▸ hname)
  have hone : ∀ name ∈ known.map Prod.fst, hs.countP (·.1 == some name) ≤ 1 := by
    intro name hname
    have hzero : added.countP (·.1 == some name) = 0 :=
      List.countP_eq_zero.mpr fun f hf h => hnotAdded name hname f hf (eq_of_beq h)
    rw [hperm.countP_eq, List.countP_append, hgs.countP_eq, countP_fieldPhrases, hzero]
    exact countP_name_le_one hfs name
  refine ⟨slotOf ts, by omega, ?_, fun name hname => ?_⟩
  · have htwice : noneTwice (known.map Prod.fst) ts = true := by
      refine List.all_eq_true.mpr fun name hname => decide_eq_true ?_
      rw [(hbyName name).1, Phrase.fieldTrees_eq_map, List.countP_map]
      exact hone name hname
    rw [Phrase.tree, if_pos (by omega)]
    refine Option.bind_eq_some_iff.mpr ⟨ts, hts, ?_⟩
    exact if_pos htwice
  · have hlookup : hs.lookup (some name) = gs.lookup (some name) := by
      have hnone : added.lookup (some name) = none :=
        List.lookup_eq_none_iff.mpr fun f hf =>
          bne_iff_ne.mpr (Ne.symm (hnotAdded name hname f hf))
      rw [lookup_eq_of_perm hperm (hone name hname), List.lookup_append, hnone, Option.or_none]
    unfold slotOf
    rw [(hbyName name).2, lookup_fieldTrees, hlookup]
    rcases hgs.lookup_eq name with ⟨p, q, hf, hg, hpq⟩ | ⟨hf, hg⟩
    · rw [lookup_fieldPhrases] at hf
      obtain ⟨j, hj, rfl⟩ := Option.map_eq_some_iff.mp hf
      rw [hg, hj]
      exact .given hpq
    · rw [lookup_fieldPhrases, Option.map_eq_none_iff] at hf
      rw [hg, hf]
      exact .absent

/-! ## Fields that may be left out -/

/-- The fields that have a value. -/
def present (es : List (String × Option Json)) : List (String × Json) :=
  es.filterMap fun e => e.2.map (e.1, ·)

theorem present_cons (e : String × Option Json) (es : List (String × Option Json)) :
    present (e :: es) = (e.2.map (e.1, ·)).toList ++ present es := by
  unfold present
  rw [List.filterMap_cons]
  cases e.2 <;> rfl

theorem mem_names_of_present {es : List (String × Option Json)} {name : String}
    (h : name ∈ (present es).map Prod.fst) : name ∈ es.map Prod.fst := by
  obtain ⟨f, hf, rfl⟩ := List.mem_map.mp h
  obtain ⟨e, he, hef⟩ := List.mem_filterMap.mp hf
  obtain ⟨j, -, rfl⟩ := Option.map_eq_some_iff.mp hef
  exact List.mem_map_of_mem he

theorem nodup_present {es : List (String × Option Json)} (h : (es.map Prod.fst).Nodup) :
    ((present es).map Prod.fst).Nodup := by
  induction es with
  | nil => exact List.nodup_nil
  | cons e es ih =>
    obtain ⟨hnotin, hes⟩ := List.nodup_cons.mp h
    rw [present_cons]
    cases e.2 with
    | none => exact ih hes
    | some j => exact List.nodup_cons.mpr ⟨fun hmem => hnotin (mem_names_of_present hmem), ih hes⟩

theorem lookup_present {es : List (String × Option Json)} (h : (es.map Prod.fst).Nodup)
    (name : String) : (present es).lookup name = (es.lookup name).join := by
  induction es with
  | nil => rfl
  | cons e es ih =>
    obtain ⟨hnotin, hes⟩ := List.nodup_cons.mp h
    rw [present_cons, List.lookup_append, List.lookup_cons, ih hes]
    by_cases hname : name = e.1
    · -- a field that is left out does not come later
      have hlater : es.lookup name = none := List.lookup_eq_none_iff.mpr fun e' he' =>
        bne_iff_ne.mpr fun heq => hnotin (hname ▸ heq ▸ List.mem_map_of_mem he')
      rw [hlater, beq_iff_eq.mpr hname]
      cases e.2 with
      | none => rfl
      | some j => simp [hname]
    · rw [beq_eq_false_iff_ne.mpr hname]
      cases e.2 with
      | none => rfl
      | some j => simp [List.lookup_cons, beq_eq_false_iff_ne.mpr hname]

/-- A record in which fields may be left out has the same slots when it is written differently. -/
theorem record?_of_present {known : List (String × Layout)} {es : List (String × Option Json)}
    (hes : (es.map Prod.fst).Nodup) {j : Json} (hj : j = .obj (present es)) {p : Phrase}
    (hp : Varied (.record known) j.phrase p) {depth room : Nat}
    (hdepth : depth + (room + 1) ≤ maxDepth) :
    ∃ slot : String → Slot, depth + 1 + room ≤ maxDepth ∧
      record? (known.map Prod.fst) (p.tree depth) = some ((known.map Prod.fst).map slot) ∧
        ∀ name ∈ known.map Prod.fst,
          Filled (.of known name) (depth + 1) (es.lookup name).join (slot name) := by
  subst hj
  obtain ⟨slot, hroom, hrecord, hslot⟩ := record?_of_varied (nodup_present hes) hp hdepth
  refine ⟨slot, hroom, hrecord, fun name hname => ?_⟩
  rw [← lookup_present hes]
  exact hslot name hname

end ClusterFeed.Json
