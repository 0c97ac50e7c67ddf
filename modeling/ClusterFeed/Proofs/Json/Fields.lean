import ClusterFeed.Json.Basic
import ClusterFeed.Proofs.Itemwise

/-!
# Fields of objects

What is found under a name in an object that was put together from lists of fields, or in which a
field was set.
-/

namespace ClusterFeed.Json

theorem get?_append (fs gs : List (String × Json)) (name : String) :
    (obj (fs ++ gs)).get? name = ((obj gs).get? name).or ((obj fs).get? name) := by
  unfold get? fields
  rw [Itemwise.findRev?_append]
  cases gs.findRev? (·.1 == name) <;> rfl

@[simp] theorem get?_nil (name : String) : (obj []).get? name = none := rfl

theorem get?_singleton (name' : String) (v : Json) (name : String) :
    (obj [(name', v)]).get? name = if name' = name then some v else none := by
  unfold get? fields
  by_cases h : name' = name
  · simp [List.findRev?, h]
  · simp [List.findRev?, h]

theorem get?_field? {α : Type} (name' : String) (f : α → Json) (o : Option α) (name : String) :
    (obj (field? name' f o)).get? name = if name' = name then o.map f else none := by
  cases o with
  | none => simp [field?]
  | some a => exact get?_singleton name' (f a) name

theorem get?_cons (f : String × Json) (fs : List (String × Json)) (name : String) :
    (obj (f :: fs)).get? name =
      ((obj fs).get? name).or (if f.1 = name then some f.2 else none) := by
  rw [← List.singleton_append, get?_append]
  exact congrArg _ (get?_singleton f.1 f.2 name)

/-- A field that is there is found with its new value. -/
theorem get?_replace (fs : List (String × Json)) (name' : String) (v : Json) (name : String) :
    (obj (fs.map fun f => if f.1 == name' then (name', v) else f)).get? name =
      if name' = name then (if fs.any (·.1 == name) then some v else none)
      else (obj fs).get? name := by
  induction fs with
  | nil => simp
  | cons f fs ih =>
    rw [List.map_cons, get?_cons, get?_cons, ih]
    by_cases hf : f.1 = name'
    · rw [if_pos (beq_iff_eq.mpr hf)]
      by_cases h : name' = name
      · cases hany : fs.any (·.1 == name) <;> simp [h, hf, hany]
      · simp [h, hf]
    · rw [if_neg (fun hb => hf (beq_iff_eq.mp hb))]
      by_cases h : name' = name
      · cases hany : fs.any (·.1 == name) <;> simp [h ▸ hf, h, hany]
      · simp [h]

/-- Setting a field changes what is found under its name and nothing else. -/
theorem get?_set (fs : List (String × Json)) (name' : String) (v : Json) (name : String) :
    (obj (set fs name' v)).get? name = if name' = name then some v else (obj fs).get? name := by
  unfold set
  by_cases hany : fs.any (·.1 == name') = true
  · rw [if_pos hany, get?_replace]
    by_cases h : name' = name
    · rw [if_pos h, if_pos h, ← h, if_pos hany]
    · rw [if_neg h, if_neg h]
  · rw [if_neg hany, get?_append, get?_singleton]
    by_cases h : name' = name
    · rw [if_pos h, if_pos h]
      rfl
    · rw [if_neg h, if_neg h]
      rfl

/-- Fields set one after the other leave alone what is under other names. -/
theorem get?_foldl_set {gs : List (String × Json)} {name : String} (h : ∀ g ∈ gs, g.1 ≠ name)
    (fs : List (String × Json)) :
    (obj (gs.foldl (fun acc g => set acc g.1 g.2) fs)).get? name = (obj fs).get? name := by
  induction gs generalizing fs with
  | nil => rfl
  | cons g gs ih =>
    rw [List.foldl_cons, ih fun g' hg' => h g' (List.mem_cons_of_mem _ hg'), get?_set,
      if_neg (h g List.mem_cons_self)]

end ClusterFeed.Json
