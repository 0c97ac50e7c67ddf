import ClusterFeed.Json.Tree

/-!
# Phrases

A value as a text in JSON phrases it, before anything is known about who reads it. A phrase has its
tokens, and it has the tree that these are built into: there numbers are kept or not, and what lies
too deep is buried.
-/

namespace ClusterFeed.Json

/-- A value as a text in JSON phrases it. -/
inductive Phrase where
  /-- The absent value. -/
  | null
  /-- A truth value. -/
  | bool (b : Bool)
  /-- A number as it is written. -/
  | num (n : Number)
  /-- A text; `none` when it denotes no characters. -/
  | text (s : Option String)
  /-- An array. -/
  | arr (items : List Phrase)
  /-- An object with its fields in order. -/
  | obj (fields : List (Option String × Phrase))

namespace Phrase

mutual

/-- The tokens of a phrase. -/
def tokens : Phrase → List Token
  | null => [.null]
  | bool b => [.bool b]
  | num n => [.num n]
  | text s => [.text s]
  | arr [] => [.openArr, .closeArr]
  | arr (p :: ps) => .openArr :: (tokens p ++ itemTokens ps)
  | obj [] => [.openObj, .closeObj]
  | obj (f :: fs) => .openObj :: .text f.1 :: .colon :: (tokens f.2 ++ fieldTokens fs)

/-- The tokens of the further items of an array and of its end. -/
def itemTokens : List Phrase → List Token
  | [] => [.closeArr]
  | p :: ps => .comma :: (tokens p ++ itemTokens ps)

/-- The tokens of the further fields of an object and of its end. -/
def fieldTokens : List (Option String × Phrase) → List Token
  | [] => [.closeObj]
  | f :: fs => .comma :: .text f.1 :: .colon :: (tokens f.2 ++ fieldTokens fs)

end

mutual

/-- The tree of a phrase that stands inside of `depth` arrays and objects. -/
def tree (depth : Nat) : Phrase → Tree
  | null => .null
  | bool b => .bool b
  | num n => .num n.kept?
  | text s => .text s
  | arr ps => if depth < maxDepth then .arr (itemTrees (depth + 1) ps) else .buried
  | obj fs => if depth < maxDepth then .obj (fieldTrees (depth + 1) fs) else .buried

/-- The trees of the items of an array. -/
def itemTrees (depth : Nat) : List Phrase → List Tree
  | [] => []
  | p :: ps => tree depth p :: itemTrees depth ps

/-- The trees of the fields of an object. -/
def fieldTrees (depth : Nat) : List (Option String × Phrase) → List (Option String × Tree)
  | [] => []
  | f :: fs => (f.1, tree depth f.2) :: fieldTrees depth fs

end

theorem fieldTrees_eq_map (depth : Nat) (fs : List (Option String × Phrase)) :
    fieldTrees depth fs = fs.map fun f => (f.1, tree depth f.2) := by
  induction fs with
  | nil => rw [fieldTrees, List.map_nil]
  | cons f fs ih => rw [fieldTrees, ih, List.map_cons]

end Phrase

/-! ## Building the tree -/

theorem reachable_eq (t : Tree) (fs : List Frame) :
    reachable t fs = if fs.length < maxDepth then t else .buried := by
  have hempty : (fs.drop (maxDepth - 1)).isEmpty = true ↔ fs.length < maxDepth := by
    rw [List.isEmpty_iff, List.drop_eq_nil_iff]
    unfold maxDepth
    omega
  unfold reachable
  by_cases h : fs.length < maxDepth
  · rw [if_pos h, if_pos (hempty.mpr h)]
  · rw [if_neg h, if_neg (mt hempty.mp h)]

theorem build?_cons {due due' : Due} {fs fs' : List Frame} {tk : Token} (tks : List Token)
    (h : take? due fs tk = some (due', fs')) : build? due fs (tk :: tks) = build? due' fs' tks := by
  rw [build?, h]

mutual

/-- The tokens of a phrase put its tree where a value is due. -/
theorem build?_tokens (p : Phrase) {due : Due} (hdue : due = .value ∨ due = .firstItem)
    (fs : List Frame) (tks : List Token) :
    build? due fs (p.tokens ++ tks) =
      build? (place (p.tree fs.length) fs).1 (place (p.tree fs.length) fs).2 tks := by
  -- the first token is taken alike in both cases
  have hopen : ∀ (tk : Token) {r : Due × List Frame} (more : List Token), tk ≠ .closeArr →
      open? tk fs = some r → build? due fs (tk :: more) = build? r.1 r.2 more := by
    intro tk r more htk h
    refine build?_cons more ?_
    rcases hdue with rfl | rfl
    · exact h
    · rw [take?.eq_def]
      split <;> first | exact absurd rfl htk | simp_all
  cases p with
  | null => exact hopen _ tks nofun rfl
  | bool b => exact hopen _ tks nofun rfl
  | num n => exact hopen _ tks nofun rfl
  | text s => exact hopen _ tks nofun rfl
  | arr ps =>
    have htree : Phrase.tree fs.length (.arr ps) =
        reachable (.arr (Phrase.itemTrees (fs.length + 1) ps)) fs := by
      rw [reachable_eq, Phrase.tree]
    rw [htree]
    cases ps with
    | nil =>
      rw [Phrase.tokens, List.cons_append, hopen .openArr _ nofun rfl]
      exact build?_cons tks rfl
    | cons p ps =>
      -- the first item is built inside of the new frame, the others come upon it
      rw [Phrase.tokens, List.cons_append, hopen .openArr _ nofun rfl, List.append_assoc,
        build?_tokens p (.inr rfl)]
      exact build?_itemTokens ps [_] fs tks
  | obj gs =>
    have htree : Phrase.tree fs.length (.obj gs) =
        reachable (.obj (Phrase.fieldTrees (fs.length + 1) gs)) fs := by
      rw [reachable_eq, Phrase.tree]
    rw [htree]
    cases gs with
    | nil =>
      rw [Phrase.tokens, List.cons_append, hopen .openObj _ nofun rfl]
      exact build?_cons tks rfl
    | cons g gs =>
      rw [Phrase.tokens, List.cons_append, hopen .openObj _ nofun rfl, List.cons_append,
        build?_cons _ rfl, List.cons_append, build?_cons _ rfl, List.append_assoc,
        build?_tokens g.2 (.inl rfl)]
      exact build?_fieldTokens gs [_] g.1 fs tks

/-- The tokens of the further items close the array. -/
theorem build?_itemTokens (ps : List Phrase) (before : List Tree) (fs : List Frame)
    (tks : List Token) :
    build? .more (.items before :: fs) (Phrase.itemTokens ps ++ tks) =
      build? (enclose (.arr (before.reverse ++ Phrase.itemTrees (fs.length + 1) ps)) fs).1
        (enclose (.arr (before.reverse ++ Phrase.itemTrees (fs.length + 1) ps)) fs).2 tks := by
  cases ps with
  | nil =>
    rw [Phrase.itemTrees, List.append_nil, Phrase.itemTokens, List.cons_append]
    exact build?_cons tks rfl
  | cons p ps =>
    rw [Phrase.itemTokens, List.cons_append, build?_cons _ rfl, List.append_assoc,
      build?_tokens p (.inl rfl)]
    refine (build?_itemTokens ps (_ :: before) fs tks).trans ?_
    rw [Phrase.itemTrees, List.reverse_cons, List.append_assoc]
    rfl

/-- The tokens of the further fields close the object. -/
theorem build?_fieldTokens (gs : List (Option String × Phrase))
    (before : List (Option String × Tree)) (name : Option String) (fs : List Frame)
    (tks : List Token) :
    build? .more (.fields before name :: fs) (Phrase.fieldTokens gs ++ tks) =
      build? (enclose (.obj (before.reverse ++ Phrase.fieldTrees (fs.length + 1) gs)) fs).1
        (enclose (.obj (before.reverse ++ Phrase.fieldTrees (fs.length + 1) gs)) fs).2 tks := by
  cases gs with
  | nil =>
    rw [Phrase.fieldTrees, List.append_nil, Phrase.fieldTokens, List.cons_append]
    exact build?_cons tks rfl
  | cons g gs =>
    rw [Phrase.fieldTokens, List.cons_append, build?_cons _ rfl, List.cons_append,
      build?_cons _ rfl, List.cons_append, build?_cons _ rfl, List.append_assoc,
      build?_tokens g.2 (.inl rfl)]
    refine (build?_fieldTokens gs (_ :: before) g.1 fs tks).trans ?_
    rw [Phrase.fieldTrees, List.reverse_cons, List.append_assoc]
    rfl

end

/-- The tokens of a phrase are built into its tree. -/
theorem build?_phrase (p : Phrase) :
    build? .value [] p.tokens = some (.nothing (p.tree 0), []) := by
  have h := build?_tokens p (.inl rfl) [] []
  rw [List.append_nil] at h
  exact h

end ClusterFeed.Json
