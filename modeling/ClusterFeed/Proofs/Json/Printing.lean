import ClusterFeed.Proofs.Json.Phrases
import ClusterFeed.Proofs.Json.Spelling

/-!
# Values as they are printed

The compact text of a value spells the tokens of the value, provided that its numbers are ones that
JSON has. What any text in JSON is parsed to follows from its tokens.
-/

namespace ClusterFeed.Json

/-- A text that spells the tokens of a phrase has the tree of the phrase. -/
theorem parse?_of_spells {p : Phrase} {cs : List Char} (h : Spells p.tokens cs) :
    Tree.parse? (cs.map some) = some (p.tree 0) := by
  unfold Tree.parse?
  rw [tokens?_of_spells h]
  show (build? .value [] p.tokens).bind (fun r => r.1.tree?) = _
  rw [build?_phrase]
  rfl

/-! ## Texts between quotes -/

/-- The piece that a printed character is. -/
def pieceOf (c : Char) : Piece :=
  if c.toNat < 0x20 ∧ c ∉ ['\x08', '\x0c', '\n', '\r', '\t'] then .unit c.toNat else .char c

theorem joinPieces_unit {n : Nat} (hn : n < 0xD800) (ps : List Piece) :
    joinPieces (.unit n :: ps) = (joinPieces ps).map (Char.ofNat n :: ·) := by
  have hhigh : ¬ (0xD800 ≤ n ∧ n ≤ 0xDBFF) := by omega
  have hlow : ¬ (0xDC00 ≤ n ∧ n ≤ 0xDFFF) := by omega
  have hany : ¬ (0xD800 ≤ n ∧ n ≤ 0xDFFF) := by omega
  cases ps with
  | nil => simp [joinPieces, hany]
  | cons p ps =>
    cases p with
    | unit l => simp [joinPieces, hhigh, hlow]
    | char c => simp [joinPieces, hany]
    | bad => simp [joinPieces, hany]

/-- The printed pieces of a text denote its characters. -/
theorem joinPieces_pieceOf (cs : List Char) : joinPieces (cs.map pieceOf) = some cs := by
  induction cs with
  | nil => rfl
  | cons c cs ih =>
    rw [List.map_cons, pieceOf]
    by_cases hc : c.toNat < 0x20 ∧ c ∉ ['\x08', '\x0c', '\n', '\r', '\t']
    · rw [if_pos hc, joinPieces_unit (Nat.lt_trans hc.1 (by decide)), ih, Char.ofNat_toNat]
      rfl
    · rw [if_neg hc, joinPieces, ih]
      rfl

theorem value?_hexDigit {n : Nat} (h : n < 16) : Text.Hex.value? (hexDigit n) = some n := by
  have hall : ∀ n < 16, Text.Hex.value? (hexDigit n) = some n := by decide
  exact hall n h

theorem pieceText_escapeChar (c : Char) : PieceText (pieceOf c) (escapeChar c) := by
  -- the characters that have a letter of their own
  by_cases hcommon : c ∈ ['"', '\\', '\x08', '\x0c', '\n', '\r', '\t']
  · simp only [List.mem_cons, List.not_mem_nil, or_false] at hcommon
    rcases hcommon with rfl | rfl | rfl | rfl | rfl | rfl | rfl <;> exact .escaped rfl
  · have hmem : c ∉ ['\x08', '\x0c', '\n', '\r', '\t'] := fun h =>
      hcommon (List.mem_cons_of_mem _ (List.mem_cons_of_mem _ h))
    simp only [List.mem_cons, List.not_mem_nil, or_false, not_or] at hcommon
    obtain ⟨hquote, hslash, hb, hf, hn, hr, ht⟩ := hcommon
    unfold escapeChar pieceOf
    rw [if_neg hquote, if_neg hslash, if_neg hb, if_neg hf, if_neg hn, if_neg hr, if_neg ht]
    by_cases hc : c.toNat < 0x20
    · rw [if_pos hc, if_pos ⟨hc, hmem⟩]
      have hunit : ((0 * 16 + 0) * 16 + c.toNat / 16) * 16 + c.toNat % 16 = c.toNat := by omega
      have hzero : Text.Hex.value? '0' = some 0 := rfl
      have htext := PieceText.unit hzero hzero (value?_hexDigit (n := c.toNat / 16) (by omega))
        (value?_hexDigit (n := c.toNat % 16) (by omega))
      rw [hunit] at htext
      exact htext
    -- all others stand for themselves
    · rw [if_neg hc, if_neg fun h => hc h.1]
      exact .plain hquote hslash (Nat.le_of_not_lt hc)

theorem piecesText_flatMap (cs : List Char) :
    PiecesText (cs.map pieceOf) (cs.flatMap escapeChar) := by
  induction cs with
  | nil => exact .nil
  | cons c cs ih =>
    rw [List.map_cons, List.flatMap_cons]
    exact .cons (pieceText_escapeChar c) ih

theorem tokenText_quoteChars (s : String) : TokenText (.text (some s)) (quoteChars s) := by
  have h := TokenText.text (piecesText_flatMap s.toList)
  rw [joinPieces_pieceOf, Option.map_some, String.ofList_toList] at h
  exact h

/-! ## Values -/

mutual

/-- The phrase of a value. -/
def phrase : Json → Phrase
  | .null => .null
  | .bool b => .bool b
  | .num n => .num n
  | .str s => .text (some s)
  | .arr xs => .arr (itemPhrases xs)
  | .obj fs => .obj (fieldPhrases fs)

/-- The phrases of the items of an array. -/
def itemPhrases : List Json → List Phrase
  | [] => []
  | x :: xs => phrase x :: itemPhrases xs

/-- The phrases of the fields of an object. -/
def fieldPhrases : List (String × Json) → List (Option String × Phrase)
  | [] => []
  | f :: fs => (some f.1, phrase f.2) :: fieldPhrases fs

end

mutual

/-- All numbers of a value are ones that JSON has. -/
def Spellable : Json → Prop
  | .num n => TailText n.tail.toList
  | .arr xs => SpellableItems xs
  | .obj fs => SpellableFields fs
  | _ => True

/-- All numbers of the items are ones that JSON has. -/
def SpellableItems : List Json → Prop
  | [] => True
  | x :: xs => Spellable x ∧ SpellableItems xs

/-- All numbers of the fields are ones that JSON has. -/
def SpellableFields : List (String × Json) → Prop
  | [] => True
  | f :: fs => Spellable f.2 ∧ SpellableFields fs

end

theorem fieldPhrases_eq_map (fs : List (String × Json)) :
    fieldPhrases fs = fs.map fun f => (some f.1, phrase f.2) := by
  induction fs with
  | nil => rw [fieldPhrases, List.map_nil]
  | cons f fs ih => rw [fieldPhrases, ih, List.map_cons]

@[simp] theorem spellable_arr {xs : List Json} : Spellable (.arr xs) ↔ ∀ x ∈ xs, Spellable x := by
  rw [Spellable]
  induction xs with
  | nil => simp [SpellableItems]
  | cons x xs ih => rw [SpellableItems, ih, List.forall_mem_cons]

@[simp] theorem spellable_obj {fs : List (String × Json)} :
    Spellable (.obj fs) ↔ ∀ f ∈ fs, Spellable f.2 := by
  rw [Spellable]
  induction fs with
  | nil => simp [SpellableFields]
  | cons f fs ih => rw [SpellableFields, ih, List.forall_mem_cons]

@[simp] theorem spellable_null : Spellable .null := trivial

@[simp] theorem spellable_bool (b : Bool) : Spellable (.bool b) := trivial

@[simp] theorem spellable_str (s : String) : Spellable (.str s) := trivial

@[simp] theorem spellable_int (n : Int) : Spellable (.int n) := by
  cases n with
  | ofNat n => exact .whole .none
  | negSucc n => exact .whole .none

@[simp] theorem spellable_nat (n : Nat) : Spellable (.nat n) := .whole .none

/-- What may come after a value: nothing that a word or a number could go on with. -/
def Apart (rest : List Char) : Prop :=
  ∀ c ∈ rest.head?, inWord c = false ∧ inNumber c = false

theorem noGap : ∀ b ∈ ([] : List Char), isGap b = true := nofun

theorem Spells.more {tk : Token} {tks : List Token} {cs rest : List Char} (h : TokenText tk cs)
    (hend : ∀ c ∈ rest.head?, runsOn tk c = false) (hrest : Spells tks rest) :
    Spells (tk :: tks) (cs ++ rest) :=
  Spells.cons noGap h hend hrest

theorem Apart.runsOn {rest : List Char} (h : Apart rest) (tk : Token) :
    ∀ c ∈ rest.head?, runsOn tk c = false := by
  intro c hc
  obtain ⟨hword, hnumber⟩ := h c hc
  cases tk <;> first | exact hword | exact hnumber | rfl

theorem apart_itemChars (xs : List Json) (rest : List Char) : Apart (itemChars xs ++ rest) := by
  intro c hc
  cases xs <;> (rw [itemChars] at hc; cases hc; decide)

theorem apart_fieldChars (fs : List (String × Json)) (rest : List Char) :
    Apart (fieldChars fs ++ rest) := by
  intro c hc
  cases fs <;> (rw [fieldChars] at hc; cases hc; decide)

mutual

/-- The compact text of a value spells the tokens of the value. -/
theorem spells_chars (j : Json) (h : j.Spellable) {tks : List Token} {rest : List Char}
    (hrest : Spells tks rest) (hend : Apart rest) :
    Spells (j.phrase.tokens ++ tks) (chars j ++ rest) := by
  cases j with
  | null =>
    rw [phrase, Phrase.tokens, chars]
    exact .more .null (hend.runsOn _) hrest
  | bool b =>
    rw [phrase, Phrase.tokens]
    cases b with
    | true =>
      rw [chars]
      exact .more .yes (hend.runsOn _) hrest
    | false =>
      rw [chars]
      exact .more .no (hend.runsOn _) hrest
  | num n =>
    rw [phrase, Phrase.tokens, chars]
    rw [Spellable] at h
    exact .more (.num h) (hend.runsOn _) hrest
  | str s =>
    rw [phrase, Phrase.tokens, chars]
    exact .more (tokenText_quoteChars s) (hend.runsOn _) hrest
  | arr xs =>
    rw [Spellable] at h
    rw [phrase]
    cases xs with
    | nil =>
      rw [itemPhrases, Phrase.tokens, chars]
      show Spells _ (['['] ++ ([']'] ++ rest))
      exact .more .openArr (fun _ _ => rfl) (.more .closeArr (fun _ _ => rfl) hrest)
    | cons x xs =>
      rw [SpellableItems] at h
      simp only [itemPhrases, Phrase.tokens, chars, List.cons_append, List.append_assoc]
      exact .more .openArr (fun _ _ => rfl) (spells_chars x h.1
        (spells_itemChars xs h.2 hrest) (apart_itemChars xs rest))
  | obj fs =>
    rw [Spellable] at h
    rw [phrase]
    cases fs with
    | nil =>
      rw [fieldPhrases, Phrase.tokens, chars]
      show Spells _ (['\x7b'] ++ (['\x7d'] ++ rest))
      exact .more .openObj (fun _ _ => rfl) (.more .closeObj (fun _ _ => rfl) hrest)
    | cons f fs =>
      rw [SpellableFields] at h
      simp only [fieldPhrases, Phrase.tokens, chars, List.cons_append, List.append_assoc]
      exact .more .openObj (fun _ _ => rfl) (.more (tokenText_quoteChars f.1) (fun _ _ => rfl)
        (.more .colon (fun _ _ => rfl) (spells_chars f.2 h.1
          (spells_fieldChars fs h.2 hrest) (apart_fieldChars fs rest))))

/-- The further items spell their tokens. -/
theorem spells_itemChars (xs : List Json) (h : SpellableItems xs) {tks : List Token}
    {rest : List Char} (hrest : Spells tks rest) :
    Spells (Phrase.itemTokens (itemPhrases xs) ++ tks) (itemChars xs ++ rest) := by
  cases xs with
  | nil =>
    rw [itemPhrases, Phrase.itemTokens, itemChars]
    exact .more .closeArr (fun _ _ => rfl) hrest
  | cons x xs =>
    rw [SpellableItems] at h
    simp only [itemPhrases, Phrase.itemTokens, itemChars, List.cons_append, List.append_assoc]
    exact .more .comma (fun _ _ => rfl) (spells_chars x h.1
      (spells_itemChars xs h.2 hrest) (apart_itemChars xs rest))

/-- The further fields spell their tokens. -/
theorem spells_fieldChars (fs : List (String × Json)) (h : SpellableFields fs) {tks : List Token}
    {rest : List Char} (hrest : Spells tks rest) :
    Spells (Phrase.fieldTokens (fieldPhrases fs) ++ tks) (fieldChars fs ++ rest) := by
  cases fs with
  | nil =>
    rw [fieldPhrases, Phrase.fieldTokens, fieldChars]
    exact .more .closeObj (fun _ _ => rfl) hrest
  | cons f fs =>
    rw [SpellableFields] at h
    simp only [fieldPhrases, Phrase.fieldTokens, fieldChars, List.cons_append, List.append_assoc]
    exact .more .comma (fun _ _ => rfl) (.more (tokenText_quoteChars f.1) (fun _ _ => rfl)
      (.more .colon (fun _ _ => rfl) (spells_chars f.2 h.1
        (spells_fieldChars fs h.2 hrest) (apart_fieldChars fs rest))))

end

/-- The compact text of a value is one of its spellings. -/
theorem spells_render {j : Json} (h : j.Spellable) : Spells j.phrase.tokens (render j).toList := by
  have hspells := spells_chars j h (.nil noGap) nofun
  rw [List.append_nil, List.append_nil] at hspells
  unfold render
  rw [String.toList_ofList]
  exact hspells

end ClusterFeed.Json
