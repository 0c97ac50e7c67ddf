import ClusterFeed.Resource.Snapshot

/-!
# Ids tell resources apart

The text before the first colon of an id is the namespace, as long as no namespace has a colon in
it. Of resources of one type the rest tells the name. When the type has no colon in it either, the
id can be taken apart, and ids are the same just when the identifiers are.

The ids are those of `build_id`.
-/

namespace ClusterFeed.Identifier

theorem splitColon_append {cs : List Char} (h : ':' ∉ cs) (rest : List Char) :
    splitColon (cs ++ ':' :: rest) = some (cs, rest) := by
  have hne : ∀ c ∈ cs, (c != ':') = true := by
    intro c hc
    rw [bne_iff_ne]
    rintro rfl
    exact h hc
  unfold splitColon
  rw [List.dropWhile_append_of_pos hne, List.takeWhile_append_of_pos hne]
  simp

theorem toList_id (i : Identifier) :
    i.id.toList = i.scope.toList ++
      ':' :: (i.apiVersion.toList ++ ':' :: (i.kind.toList ++ ':' :: i.name.toList)) := by
  unfold id
  simp [String.toList_append]

theorem splitColon_eq_some_iff {cs left right : List Char} :
    splitColon cs = some (left, right) ↔ cs = left ++ ':' :: right ∧ ':' ∉ left := by
  constructor
  · intro h
    unfold splitColon at h
    have hsplit := List.takeWhile_append_dropWhile (p := (· != ':')) (l := cs)
    have hfree : ':' ∉ cs.takeWhile (· != ':') := by
      intro hc
      have hne := List.all_eq_true.mp List.all_takeWhile _ hc
      simp at hne
    cases hrest : cs.dropWhile (· != ':') with
    | nil =>
      rw [hrest] at h
      cases h
    | cons c rest =>
      rw [hrest] at h
      cases h
      have hcolon : c = ':' := by
        have hhead := List.head?_dropWhile_not (· != ':') cs
        rw [hrest] at hhead
        simpa using hhead
      rw [hrest, hcolon] at hsplit
      exact ⟨hsplit.symm, hfree⟩
  · rintro ⟨rfl, hleft⟩
    exact splitColon_append hleft right

/-- Of identifiers with one type, no two with namespaces free of colons have the same id. -/
theorem eq_of_id_eq {i i' : Identifier} (hs : ':' ∉ i.scope.toList) (hs' : ':' ∉ i'.scope.toList)
    (hversion : i.apiVersion = i'.apiVersion) (hkind : i.kind = i'.kind) (h : i.id = i'.id) :
    i = i' := by
  have hl := congrArg (fun s => splitColon s.toList) h
  simp only [toList_id, splitColon_append hs, splitColon_append hs', Option.some_inj,
    Prod.mk.injEq] at hl
  obtain ⟨hscope, hrest⟩ := hl
  rw [hversion, List.append_cancel_left_eq, hkind] at hrest
  have hname := List.append_cancel_left (List.cons_inj_right _ |>.mp hrest)
  obtain ⟨scope, apiVersion, kind, name⟩ := i
  obtain ⟨scope', apiVersion', kind', name'⟩ := i'
  rw [List.cons_inj_right] at hname
  simp_all [String.toList_inj]

/-- An id can be taken apart when only the name has colons. -/
theorem ofId?_id {i : Identifier} (hs : ':' ∉ i.scope.toList) (hversion : ':' ∉ i.apiVersion.toList)
    (hkind : ':' ∉ i.kind.toList) : ofId? i.id = some i := by
  unfold ofId?
  rw [toList_id, splitColon_append hs]
  dsimp only [Option.bind_eq_bind, Option.bind_some]
  rw [splitColon_append hversion]
  dsimp only [Option.bind_some]
  rw [splitColon_append hkind]
  simp [String.ofList_toList]

/-- No part of the identifier but the name has a colon in it. -/
structure ColonFree (i : Identifier) : Prop where
  scope : ':' ∉ i.scope.toList
  apiVersion : ':' ∉ i.apiVersion.toList
  kind : ':' ∉ i.kind.toList

/-- What can be taken apart is an id, and it comes apart in one way only. -/
theorem ofId?_eq_some_iff {s : String} {i : Identifier} :
    ofId? s = some i ↔ s = i.id ∧ i.ColonFree := by
  constructor
  · intro h
    simp only [ofId?, Option.bind_eq_bind, Option.bind_eq_some_iff] at h
    obtain ⟨⟨scope, cs⟩, hscope, ⟨apiVersion, cs'⟩, hversion, ⟨kind, name⟩, hkind, h⟩ := h
    cases h
    obtain ⟨hs, hscopeFree⟩ := splitColon_eq_some_iff.mp hscope
    obtain ⟨rfl, hversionFree⟩ := splitColon_eq_some_iff.mp hversion
    obtain ⟨rfl, hkindFree⟩ := splitColon_eq_some_iff.mp hkind
    constructor
    · rw [← String.toList_inj, toList_id, hs]
      simp only [String.toList_ofList]
    · constructor <;> simpa only [String.toList_ofList]
  · rintro ⟨rfl, h⟩
    exact ofId?_id h.scope h.apiVersion h.kind

theorem id_inj {i i' : Identifier} (h : i.ColonFree) (h' : i'.ColonFree) :
    i.id = i'.id ↔ i = i' := by
  constructor
  · intro hid
    have hi := ofId?_id h.scope h.apiVersion h.kind
    rw [hid, ofId?_id h'.scope h'.apiVersion h'.kind] at hi
    exact (Option.some.inj hi).symm
  · intro hi
    rw [hi]

/-- The namespace under which the index knows a resource. -/
def scopeFor (ns : Option String) : String := (ns.filter (· ≠ "")).getD clusterScope

theorem of_eq_mk (ns : Option String) (apiVersion kind name : String) :
    of ns apiVersion kind name = ⟨scopeFor ns, apiVersion, kind, name⟩ := by
  unfold of scopeFor
  cases ns with
  | none => rfl
  | some n => by_cases hn : n = "" <;> simp [Option.filter, hn]

theorem of_inj {ns ns' : Option String} {apiVersion apiVersion' kind kind' name name' : String} :
    of ns apiVersion kind name = of ns' apiVersion' kind' name' ↔
      apiVersion = apiVersion' ∧ kind = kind' ∧ name = name' ∧ scopeFor ns = scopeFor ns' := by
  rw [of_eq_mk, of_eq_mk, mk.injEq]
  constructor
  · rintro ⟨hscope, hversion, hkind, hname⟩
    exact ⟨hversion, hkind, hname, hscope⟩
  · rintro ⟨hversion, hkind, hname, hscope⟩
    exact ⟨hscope, hversion, hkind, hname⟩

theorem scope_of_ne_empty (ns : Option String) (apiVersion kind name : String) :
    (of ns apiVersion kind name).scope ≠ "" := by
  have hcluster : clusterScope ≠ "" := by decide
  unfold of
  cases ns with
  | none => exact hcluster
  | some n =>
    show (if n = "" then clusterScope else n) ≠ ""
    split
    · exact hcluster
    · assumption

/-- An identifier made of the fields of one. -/
theorem of_scope {i : Identifier} (h : i.scope ≠ "") :
    of (some i.scope) i.apiVersion i.kind i.name = i := by
  unfold of
  simp [h]

/-- Ids tell identifiers apart, and an id gives back what it was made of. The ids of two resources
are the same just when the resources are, where no namespace and an empty one count as one. -/
theorem ids_tell_apart :
    (∀ i i' : Identifier, i.ColonFree → i'.ColonFree → i.id = i'.id → i = i') ∧
      (∀ (s : String) (i : Identifier), ofId? s = some i ↔ s = i.id ∧ i.ColonFree) ∧
      ∀ (ns ns' : Option String) (apiVersion apiVersion' kind kind' name name' : String),
        (of ns apiVersion kind name).ColonFree → (of ns' apiVersion' kind' name').ColonFree →
        ((of ns apiVersion kind name).id = (of ns' apiVersion' kind' name').id ↔
          apiVersion = apiVersion' ∧ kind = kind' ∧ name = name' ∧ scopeFor ns = scopeFor ns') := by
  refine ⟨?_, ?_, ?_⟩
  · intro i i' h h' hid
    exact (id_inj h h').mp hid
  · intro s i
    exact ofId?_eq_some_iff
  · intro ns ns' apiVersion apiVersion' kind kind' name name' h h'
    exact (id_inj h h').trans of_inj

/-- A node whose name looks like the end of another id. -/
def oddNode : Identifier := of none "v1" "Node" "v1:Node:a"

theorem ids_tell_apart_oddNode :
    oddNode.ColonFree ∧ (of (some "") "v1" "Node" "v1:Node:a").ColonFree ∧
      (of (some "v1") "v1" "Node" "a").ColonFree ∧
      ofId? "_cluster:v1:Node:v1:Node:a" = some oddNode ∧
      (of (some "") "v1" "Node" "v1:Node:a").id = oddNode.id ∧
      (of (some "v1") "v1" "Node" "a").id ≠ oddNode.id := by
  have hodd : oddNode.ColonFree := ⟨by decide, by decide, by decide⟩
  have hempty : (of (some "") "v1" "Node" "v1:Node:a").ColonFree :=
    ⟨by decide, by decide, by decide⟩
  have hother : (of (some "v1") "v1" "Node" "a").ColonFree := ⟨by decide, by decide, by decide⟩
  obtain ⟨hinj, hapart, hsame⟩ := ids_tell_apart
  refine ⟨hodd, hempty, hother, (hapart _ _).mpr ⟨by decide, hodd⟩, ?_, ?_⟩
  · exact (hsame _ _ _ _ _ _ _ _ hempty hodd).mpr ⟨rfl, rfl, rfl, by decide⟩
  · intro hid
    exact absurd (hinj _ _ hother hodd hid) (by decide)

end ClusterFeed.Identifier
