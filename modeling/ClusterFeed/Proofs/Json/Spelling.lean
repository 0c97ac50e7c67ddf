import ClusterFeed.Json.Printer
import ClusterFeed.Proofs.Digits

/-!
# How tokens are spelled

What a text in JSON looks like, token by token: any blanks may stand before a token, a text may
escape any of its characters, and a number is written without superfluous zeros. However tokens are
spelled, just these tokens are read.
-/

namespace ClusterFeed.Json

/-! ## The spelling of one token -/

/-- An exponent, or nothing. -/
inductive ExponentText : List Char → Prop
  /-- No exponent. -/
  | none : ExponentText []
  /-- An exponent without a sign. -/
  | plain {e : Char} {ds : List Char} (he : e = 'e' ∨ e = 'E') (hds : Digits ds) :
      ExponentText (e :: ds)
  /-- An exponent with a sign. -/
  | signed {e s : Char} {ds : List Char} (he : e = 'e' ∨ e = 'E') (hs : s = '+' ∨ s = '-')
      (hds : Digits ds) : ExponentText (e :: s :: ds)

/-- What may follow the integer part of a number. -/
inductive TailText : List Char → Prop
  /-- No fraction. -/
  | whole {cs : List Char} (h : ExponentText cs) : TailText cs
  /-- A fraction. -/
  | fraction {ds cs : List Char} (hds : Digits ds) (h : ExponentText cs) :
      TailText ('.' :: (ds ++ cs))

/-- One piece of a text between its quotes. -/
inductive PieceText : Piece → List Char → Prop
  /-- A character that stands for itself. -/
  | plain {c : Char} (hquote : c ≠ '"') (hslash : c ≠ '\\') (hc : 0x20 ≤ c.toNat) :
      PieceText (.char c) [c]
  /-- A letter after a backslash. -/
  | escaped {c e : Char} (h : escaped? c = some e) : PieceText (.char e) ['\\', c]
  /-- A code unit in four hexadecimal digits. -/
  | unit {a b c d : Char} {na nb nc nd : Nat} (ha : Text.Hex.value? a = some na)
      (hb : Text.Hex.value? b = some nb) (hc : Text.Hex.value? c = some nc)
      (hd : Text.Hex.value? d = some nd) :
      PieceText (.unit (((na * 16 + nb) * 16 + nc) * 16 + nd)) ['\\', 'u', a, b, c, d]

/-- What stands between the quotes of a text. -/
inductive PiecesText : List Piece → List Char → Prop
  /-- An empty text. -/
  | nil : PiecesText [] []
  /-- One more piece. -/
  | cons {p : Piece} {ps : List Piece} {cs rest : List Char} (h : PieceText p cs)
      (hrest : PiecesText ps rest) : PiecesText (p :: ps) (cs ++ rest)

/-- The text that a token is written as. -/
inductive TokenText : Token → List Char → Prop
  | openObj : TokenText .openObj ['\x7b']
  | closeObj : TokenText .closeObj ['\x7d']
  | openArr : TokenText .openArr ['[']
  | closeArr : TokenText .closeArr [']']
  | comma : TokenText .comma [',']
  | colon : TokenText .colon [':']
  | null : TokenText .null ['n', 'u', 'l', 'l']
  | yes : TokenText (.bool true) ['t', 'r', 'u', 'e']
  | no : TokenText (.bool false) ['f', 'a', 'l', 's', 'e']
  /-- A number; its integer part is written without superfluous zeros. -/
  | num {n : Number} (h : TailText n.tail.toList) : TokenText (.num n) n.chars
  /-- A text between quotes; it denotes no characters when halves of pairs stand alone in it. -/
  | text {ps : List Piece} {cs : List Char} (h : PiecesText ps cs) :
      TokenText (.text ((joinPieces ps).map String.ofList)) ('"' :: (cs ++ ['"']))

/-! ## The spelling of several tokens -/

/-- The blanks that may stand between tokens. -/
def isGap (c : Char) : Bool :=
  c == ' ' || c == '\t' || c == '\n' || c == '\r'

/-- Whether a token would be a longer one with the character behind it. -/
def runsOn : Token → Char → Bool
  | .null, c => inWord c
  | .bool _, c => inWord c
  | .num _, c => inNumber c
  | _, _ => false

/-- The texts that tokens are written as. -/
inductive Spells : List Token → List Char → Prop
  /-- Nothing but blanks. -/
  | nil {bs : List Char} (hbs : ∀ b ∈ bs, isGap b = true) : Spells [] bs
  /-- One more token, with blanks before it. -/
  | cons {bs cs rest : List Char} {tk : Token} {tks : List Token} (hbs : ∀ b ∈ bs, isGap b = true)
      (h : TokenText tk cs) (hend : ∀ c ∈ rest.head?, runsOn tk c = false)
      (hrest : Spells tks rest) : Spells (tk :: tks) (bs ++ (cs ++ rest))

/-! ## Numbers -/

theorem ExponentText.head_not_digit {cs : List Char} (h : ExponentText cs) :
    ∀ c ∈ cs.head?, c.isDigit = false ∧ c ≠ '.' := by
  rintro c hc
  cases h with
  | none => cases hc
  | plain he =>
    cases hc
    rcases he with rfl | rfl <;> decide
  | signed he =>
    cases hc
    rcases he with rfl | rfl <;> decide

theorem ExponentText.isExponent {cs : List Char} (h : ExponentText cs) : isExponent cs = true := by
  cases h with
  | none => rfl
  | @plain e ds he hds =>
    obtain ⟨d, ds', rfl, hd⟩ := hds.exists_cons
    have hall : (d :: ds').all Char.isDigit = true := List.all_eq_true.mpr hds.2
    have hplus : d ≠ '+' := by rintro rfl; cases hd
    have hminus : d ≠ '-' := by rintro rfl; cases hd
    have heq : Json.isExponent (e :: d :: ds') =
        ((e == 'e' || e == 'E') && !(d :: ds').isEmpty && (d :: ds').all Char.isDigit) := by
      rw [Json.isExponent.eq_def]
      split <;> simp_all
    rw [heq, hall]
    rcases he with rfl | rfl <;> rfl
  | @signed e s ds he hs hds =>
    have hall : ds.all Char.isDigit = true := List.all_eq_true.mpr hds.2
    have hne : ds.isEmpty = false := List.isEmpty_eq_false_iff.mpr hds.1
    rcases hs with rfl | rfl <;> rcases he with rfl | rfl <;> simp [Json.isExponent, hall, hne]

theorem TailText.head_not_digit {cs : List Char} (h : TailText cs) :
    ∀ c ∈ cs.head?, c.isDigit = false := by
  intro c hc
  cases h with
  | whole h => exact (h.head_not_digit c hc).1
  | fraction =>
    cases hc
    rfl

theorem TailText.isNumberTail {cs : List Char} (h : TailText cs) : isNumberTail cs = true := by
  cases h with
  | whole h =>
    have heq : Json.isNumberTail cs = Json.isExponent cs := by
      rw [Json.isNumberTail.eq_def]
      split
      · exact absurd rfl (h.head_not_digit '.' rfl).2
      · rfl
    rw [heq, h.isExponent]
  | fraction hds h =>
    have hcs := fun c hc => (h.head_not_digit c hc).1
    rw [Json.isNumberTail, hds.takeWhile_append hcs, hds.dropWhile_append hcs, h.isExponent,
      List.isEmpty_eq_false_iff.mpr hds.1]
    rfl

theorem unsigned?_chars {w : Nat} {tail : String} (h : TailText tail.toList) (negative : Bool) :
    unsigned? negative (Nat.toDigits 10 w ++ tail.toList) = some ⟨negative, w, tail⟩ := by
  have hds := Digits.toDigits w
  have hzero :
      ((Nat.toDigits 10 w).head? == some '0' && (Nat.toDigits 10 w).length != 1) = false := by
    rw [Bool.and_eq_false_iff, beq_eq_false_iff_ne, bne_eq_false_iff_eq]
    by_cases hhead : (Nat.toDigits 10 w).head? = some '0'
    · exact .inr (Digits.toDigits_head w hhead)
    · exact .inl hhead
  unfold unsigned?
  simp only [hds.takeWhile_append h.head_not_digit, hds.dropWhile_append h.head_not_digit, hzero,
    h.isNumberTail, List.isEmpty_eq_false_iff.mpr hds.1, Bool.or_self, Bool.false_eq_true, if_false,
    if_true, natOfDigits_toDigits, String.ofList_toList]

/-- A number is read as it is written. -/
theorem number?_chars {n : Number} (h : TailText n.tail.toList) : number? n.chars = some n := by
  obtain ⟨negative, w, tail⟩ := n
  cases negative with
  | true => exact unsigned?_chars h true
  | false =>
    have hchars : Number.chars ⟨false, w, tail⟩ = Nat.toDigits 10 w ++ tail.toList := rfl
    rw [hchars, ← unsigned?_chars h false]
    obtain ⟨d, ds, hds, hd⟩ := (Digits.toDigits w).exists_cons
    rw [hds, List.cons_append]
    have hminus : d ≠ '-' := by rintro rfl; cases hd
    unfold number?
    split
    · exact absurd (List.cons.inj ‹_›).1 hminus
    · rfl

theorem inNumber_of_isDigit {c : Char} (h : c.isDigit = true) : inNumber c = true := by
  simp [inNumber, h]

theorem ExponentText.inNumber {cs : List Char} (h : ExponentText cs) :
    ∀ c ∈ cs, inNumber c = true := by
  cases h with
  | none => exact fun _ h => nomatch h
  | plain he hds =>
    refine List.forall_mem_cons.mpr ⟨?_, fun c hc => inNumber_of_isDigit (hds.2 c hc)⟩
    rcases he with rfl | rfl <;> rfl
  | signed he hs hds =>
    refine List.forall_mem_cons.mpr ⟨?_, List.forall_mem_cons.mpr
      ⟨?_, fun c hc => inNumber_of_isDigit (hds.2 c hc)⟩⟩
    · rcases he with rfl | rfl <;> rfl
    · rcases hs with rfl | rfl <;> rfl

theorem TailText.inNumber {cs : List Char} (h : TailText cs) : ∀ c ∈ cs, inNumber c = true := by
  cases h with
  | whole h => exact h.inNumber
  | fraction hds h =>
    exact List.forall_mem_cons.mpr ⟨rfl, List.forall_mem_append.mpr
      ⟨fun c hc => inNumber_of_isDigit (hds.2 c hc), h.inNumber⟩⟩

/-- A number begins with a sign or a digit and goes on with characters of numbers. -/
theorem Number.exists_chars {n : Number} (h : TailText n.tail.toList) :
    ∃ c cs, n.chars = c :: cs ∧ (c == '-' || c.isDigit) = true ∧ ∀ d ∈ cs, inNumber d = true := by
  obtain ⟨d, ds, hds, hd⟩ := (Digits.toDigits n.whole).exists_cons
  have hall : ∀ c ∈ Nat.toDigits 10 n.whole ++ n.tail.toList, inNumber c = true :=
    List.forall_mem_append.mpr
      ⟨fun c hc => inNumber_of_isDigit ((Digits.toDigits n.whole).2 c hc), h.inNumber⟩
  unfold Number.chars
  cases n.negative with
  | true => exact ⟨'-', _, rfl, rfl, hall⟩
  | false =>
    rw [hds] at hall ⊢
    exact ⟨d, _, rfl, by simp [hd], fun c hc => hall c (List.mem_cons_of_mem _ hc)⟩

/-! ## The machine on a spelling -/

/-- What the machine makes of the characters: all tokens up to the end, the last one first. -/
def finish? (st : Scan) (acc : List Token) (cs : List Char) : Option (List Token) :=
  (scan? st acc (cs.map some)).bind fun r => flush? r.2 r.1

theorem tokens?_eq (cs : List Char) :
    tokens? (cs.map some) = (finish? .idle [] cs).map List.reverse := by
  unfold tokens? finish?
  cases scan? .idle [] (cs.map some) with
  | none => rfl
  | some r =>
    show (flush? r.2 r.1).bind _ = (flush? r.2 r.1).map _
    cases flush? r.2 r.1 <;> rfl

theorem finish?_cons (st : Scan) (acc : List Token) (c : Char) (cs : List Char) :
    finish? st acc (c :: cs) = (step? st acc (some c)).bind fun r => finish? r.1 r.2 cs := by
  simp only [finish?, List.map_cons, scan?]
  cases step? st acc (some c) <;> rfl

variable {acc : List Token}

theorem finish?_gap {bs : List Char} (hbs : ∀ b ∈ bs, isGap b = true) (rest : List Char) :
    finish? .idle acc (bs ++ rest) = finish? .idle acc rest := by
  induction bs with
  | nil => rfl
  | cons b bs ih =>
    obtain ⟨hb, hbs⟩ := List.forall_mem_cons.mp hbs
    have hstep : step? .idle acc (some b) = some (.idle, acc) := by
      simp only [isGap, Bool.or_eq_true, beq_iff_eq] at hb
      rcases hb with ((rfl | rfl) | rfl) | rfl <;> rfl
    rw [List.cons_append, finish?_cons, hstep]
    exact ih hbs

/-- A word or a number is read up to where it does not go on, and is complete there. -/
theorem finish?_run {st : List Char → Scan} {goesOn : Char → Bool} {tk : Token} {c : Char}
    {cs rest : List Char} (hbegin : begin? acc c = some (st [c], acc))
    (hgo : ∀ read d, goesOn d = true → step? (st read) acc (some d) = some (st (d :: read), acc))
    (hstop : ∀ read d, goesOn d = false →
      step? (st read) acc (some d) = (flush? acc (st read)).bind fun acc => begin? acc d)
    (hcs : ∀ d ∈ cs, goesOn d = true)
    (hflush : flush? acc (st (c :: cs).reverse) = some (tk :: acc))
    (hend : ∀ d ∈ rest.head?, goesOn d = false) :
    finish? .idle acc (c :: (cs ++ rest)) = finish? .idle (tk :: acc) rest := by
  have hread : ∀ read, finish? (st read) acc (cs ++ rest) =
      finish? (st (cs.reverse ++ read)) acc rest := by
    clear hflush
    induction cs with
    | nil => exact fun _ => rfl
    | cons d cs ih =>
      intro read
      obtain ⟨hd, hcs⟩ := List.forall_mem_cons.mp hcs
      rw [List.cons_append, finish?_cons, hgo read d hd, Option.bind_some, ih hcs,
        List.reverse_cons, List.append_assoc]
      rfl
  rw [finish?_cons]
  show (begin? acc c).bind _ = _
  rw [hbegin, Option.bind_some, hread]
  rw [List.reverse_cons] at hflush
  -- the machine keeps the token back until it sees the end or what comes after it
  cases rest with
  | nil => exact hflush
  | cons d rest =>
    rw [finish?_cons, finish?_cons, hstop _ d (hend d rfl), hflush]
    rfl

theorem begin?_number {c : Char} (h : (c == '-' || c.isDigit) = true) :
    begin? acc c = some (.number [c], acc) := by
  unfold begin?
  split <;> first | exact absurd h (by decide) | exact if_pos h

theorem begin?_word {c : Char} (h : inWord c = true) : begin? acc c = some (.word [c], acc) := by
  have hnot : (c == '-' || c.isDigit) = false := by
    simp only [inWord, Bool.and_eq_true, decide_eq_true_eq, Char.le_def, UInt32.le_iff_toNat_le]
      at h
    simp only [Bool.or_eq_false_iff, beq_eq_false_iff_ne, Char.isDigit, Bool.and_eq_false_iff,
      decide_eq_false_iff_not]
    refine ⟨?_, .inr ?_⟩
    · rintro rfl
      exact absurd h.1 (by decide)
    · rw [UInt32.le_iff_toNat_le]
      have h1 := h.1
      simp at h1 ⊢
      omega
  unfold begin?
  split <;> first | exact absurd h (by decide) | (rw [if_neg (by simp [hnot]), if_pos h])

theorem finish?_pieces {ps : List Piece} {cs : List Char} (h : PiecesText ps cs)
    {read : List Piece} (rest : List Char) :
    finish? (.text read) acc (cs ++ rest) = finish? (.text (ps.reverse ++ read)) acc rest := by
  induction h generalizing read with
  | nil => rfl
  | @cons p ps cs rest' h hrest ih =>
    have hpiece : ∀ more, finish? (.text read) acc (cs ++ more) =
        finish? (.text (p :: read)) acc more := by
      intro more
      cases h with
      | plain hquote hslash hc =>
        rw [List.singleton_append, finish?_cons]
        simp [step?, hquote, hslash, Nat.not_lt.mpr hc]
      | @escaped c e h =>
        have hu : c ≠ 'u' := by rintro rfl; cases h
        simp [finish?_cons, step?, hu, h]
      | unit ha hb hc hd => simp [finish?_cons, step?, ha, hb, hc, hd]
    rw [List.append_assoc, hpiece, ih, List.reverse_cons, List.append_assoc]
    rfl

theorem finish?_token {tk : Token} {cs : List Char} (h : TokenText tk cs) {rest : List Char}
    (hend : ∀ c ∈ rest.head?, runsOn tk c = false) :
    finish? .idle acc (cs ++ rest) = finish? .idle (tk :: acc) rest := by
  have hword : ∀ {c cs tk}, (c :: cs).all inWord = true → word? (c :: cs) = some tk →
      (∀ d ∈ rest.head?, inWord d = false) →
      finish? .idle acc ((c :: cs) ++ rest) = finish? .idle (tk :: acc) rest := by
    intro c cs tk hall hw hend
    obtain ⟨hc, hcs⟩ := List.forall_mem_cons.mp (List.all_eq_true.mp hall)
    have hflush : flush? acc (.word (c :: cs).reverse) = some (tk :: acc) := by
      rw [flush?, List.reverse_reverse, hw, Option.map_some]
    exact finish?_run (begin?_word hc) (fun _ _ hd => by simp [step?, hd])
      (fun _ _ hd => by simp [step?, hd]) hcs hflush hend
  cases h with
  | openObj => exact finish?_cons ..
  | closeObj => exact finish?_cons ..
  | openArr => exact finish?_cons ..
  | closeArr => exact finish?_cons ..
  | comma => exact finish?_cons ..
  | colon => exact finish?_cons ..
  | null => exact hword rfl rfl hend
  | yes => exact hword rfl rfl hend
  | no => exact hword rfl rfl hend
  | @num n h =>
    obtain ⟨c, cs, hchars, hc, hcs⟩ := n.exists_chars h
    have hflush : flush? acc (.number (c :: cs).reverse) = some (.num n :: acc) := by
      rw [flush?, List.reverse_reverse, ← hchars, number?_chars h, Option.map_some]
    rw [hchars]
    exact finish?_run (begin?_number hc) (fun _ _ hd => by simp [step?, hd])
      (fun _ _ hd => by simp [step?, hd]) hcs hflush hend
  | @text ps cs h =>
    rw [List.cons_append, List.append_assoc, finish?_cons]
    show finish? (.text []) acc (cs ++ (['"'] ++ rest)) = _
    rw [finish?_pieces h, List.singleton_append, finish?_cons]
    simp [step?]

theorem finish?_spells {tks : List Token} {cs : List Char} (h : Spells tks cs) :
    finish? .idle acc cs = some (tks.reverse ++ acc) := by
  induction h generalizing acc with
  | @nil bs hbs =>
    have hgap : finish? .idle acc (bs ++ []) = some acc := finish?_gap hbs []
    rw [List.append_nil] at hgap
    exact hgap
  | cons hbs h hend hrest ih =>
    rw [finish?_gap hbs, finish?_token h hend, ih, List.reverse_cons, List.append_assoc]
    rfl

/-- However tokens are spelled, just these tokens are read. -/
theorem tokens?_of_spells {tks : List Token} {cs : List Char} (h : Spells tks cs) :
    tokens? (cs.map some) = some tks := by
  rw [tokens?_eq, finish?_spells h, List.append_nil, Option.map_some, List.reverse_reverse]

end ClusterFeed.Json
