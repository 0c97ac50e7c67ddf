import ClusterFeed.Sync.Client

/-!
# The law of retries

A request is sent until an attempt comes to a final outcome, and at most once more than there are
retries. The statements are about a client that is never stopped and gets every token it asks for:
all that it does in a call is written down deed by deed, whatever its attempts come to.

The call is `post`.
-/

namespace ClusterFeed.Sync

open Time (Duration)

/-- Whether no attempt follows one that came to this. -/
def isFinal : Except SyncError Response → Bool
  | .ok _ => true
  | .error e => !e.isRetryable

/-- What an attempt can come to: there is no answer, or one of the index. -/
inductive IsOutcome : Except SyncError Response → Prop where
  | unanswered (cause : String) : IsOutcome (.error (.http cause))
  | answered (status : Nat) (body : List UInt8) : IsOutcome (classify status body)

/-- Of all that an attempt can come to only an accepted request and a partial failure are final. -/
theorem isFinal_iff {o : Except SyncError Response} (h : IsOutcome o) :
    isFinal o = true ↔ (∃ a, o = .ok a) ∨ ∃ a, o = .error (.partialFailure a) := by
  cases h with
  | unanswered cause => simp [isFinal, SyncError.isRetryable]
  | answered status body =>
    unfold classify
    dsimp only
    split
    · split
      · simp [isFinal, SyncError.isRetryable]
      · split
        · simp [isFinal, SyncError.isRetryable]
        · split <;> simp [isFinal, SyncError.isRetryable]
    · split <;> simp [isFinal, SyncError.isRetryable]

/-- Something that a client does. -/
inductive Deed where
  /-- It reads its token. -/
  | read (token : String)
  /-- It sends a request to an address, with a token or without. -/
  | sent (url : String) (token : Option String) (r : Request)
  /-- It waits. -/
  | waited (d : Duration)
  deriving DecidableEq

namespace Deed

def read? : Deed → Option String
  | read token => some token
  | _ => none

def sent? : Deed → Option (String × Option String × Request)
  | sent url token r => some (url, token, r)
  | _ => none

def waited? : Deed → Option Duration
  | waited d => some d
  | _ => none

end Deed

/-- How many attempts were made. -/
def attempts (ds : List Deed) : Nat := (ds.filterMap Deed.sent?).length

/-- What a client meets that is never stopped. Attempts, tokens and waits are counted from one. -/
structure Script where
  /-- What an attempt comes to. -/
  outcome : Nat → Except SyncError Response
  /-- The tokens that are read, if requests carry one. -/
  token : Option (Nat → String)
  /-- The random factors of the waits. -/
  factor : Nat → Double

namespace Script

/-- An index that keeps to the script and writes down what is done, the oldest first. -/
def index (s : Script) : IndexAccess (List Deed) where
  isCancelled _ := false
  attempt url token r ds := (s.outcome (attempts ds + 1), ds ++ [.sent url token r])
  factor ds := (s.factor ((ds.filterMap Deed.waited?).length + 1), ds)
  pause d ds := (false, ds ++ [.waited d])

/-- A client whose tokens are those of the script. -/
def client (s : Script) (cfg : ClientConfig) : Client (List Deed) where
  config := cfg
  tokens := s.token.map fun token ds =>
    let t := token ((ds.filterMap Deed.read?).length + 1)
    (.ok t, ds ++ [.read t])

/-- The first attempt that comes to a final outcome. -/
def FirstFinal (s : Script) (k : Nat) : Prop :=
  1 ≤ k ∧ isFinal (s.outcome k) = true ∧ ∀ j, 1 ≤ j → j < k → isFinal (s.outcome j) = false

variable (s : Script) (cfg : ClientConfig) (r : Request) (waits : Nat → Duration)

/-- The attempt of a number: the token is read, if there is one, and the request is sent. -/
def attempt (k : Nat) : List Deed :=
  s.token.toList.map (fun token => .read (token k)) ++
    [.sent cfg.url (s.token.map fun token => token k) r]

/-- The wait before a retry; before the first attempt there is none. -/
def waitBefore (retry : Nat) : List Deed :=
  if retry = 0 then [] else [.waited (waits retry)]

/-- All that is done when so many attempts are made. -/
def deeds : Nat → List Deed
  | 0 => []
  | n + 1 => deeds n ++ waitBefore waits n ++ s.attempt cfg r (n + 1)

/-! ## What is written down -/

theorem sent_attempt (k : Nat) : (s.attempt cfg r k).filterMap Deed.sent? =
    [(cfg.url, s.token.map fun token => token k, r)] := by
  unfold attempt
  cases s.token <;> rfl

theorem read_attempt (k : Nat) : (s.attempt cfg r k).filterMap Deed.read? =
    s.token.toList.map fun token => token k := by
  unfold attempt
  cases s.token <;> rfl

theorem waited_attempt (k : Nat) : (s.attempt cfg r k).filterMap Deed.waited? = [] := by
  unfold attempt
  cases s.token <;> rfl

theorem sent_waitBefore (n : Nat) : (waitBefore waits n).filterMap Deed.sent? = [] := by
  unfold waitBefore
  split <;> rfl

theorem read_waitBefore (n : Nat) : (waitBefore waits n).filterMap Deed.read? = [] := by
  unfold waitBefore
  split <;> rfl

/-- All attempts send the same request to the same address. -/
theorem sent_deeds (n : Nat) : (s.deeds cfg r waits n).filterMap Deed.sent? =
    (List.range n).map fun i => (cfg.url, s.token.map fun token => token (i + 1), r) := by
  induction n with
  | zero => rfl
  | succ n ih =>
    rw [deeds, List.filterMap_append, List.filterMap_append, ih, sent_waitBefore, sent_attempt,
      List.range_succ, List.map_append, List.append_nil]
    rfl

theorem attempts_deeds (n : Nat) : attempts (s.deeds cfg r waits n) = n := by
  rw [attempts, sent_deeds, List.length_map, List.length_range]

/-- The token is read once for each attempt. -/
theorem read_deeds (n : Nat) : (s.deeds cfg r waits n).filterMap Deed.read? =
    (List.range n).filterMap fun i => s.token.map fun token => token (i + 1) := by
  induction n with
  | zero => rfl
  | succ n ih =>
    rw [deeds, List.filterMap_append, List.filterMap_append, ih, read_waitBefore, read_attempt,
      List.range_succ, List.filterMap_append, List.append_nil]
    cases s.token <;> rfl

/-- The waits up to the one before a retry. -/
theorem waited_deeds_waitBefore (n : Nat) :
    (s.deeds cfg r waits n ++ waitBefore waits n).filterMap Deed.waited? =
      (List.range n).map fun i => waits (i + 1) := by
  induction n with
  | zero => rfl
  | succ n ih =>
    rw [deeds, List.filterMap_append, List.filterMap_append, ih, waited_attempt, List.append_nil,
      List.range_succ, List.map_append]
    rfl

theorem waited_deeds (n : Nat) : (s.deeds cfg r waits n).filterMap Deed.waited? =
    (List.range (n - 1)).map fun i => waits (i + 1) := by
  cases n with
  | zero => rfl
  | succ n =>
    rw [deeds, List.filterMap_append, waited_deeds_waitBefore, waited_attempt, List.append_nil,
      Nat.add_sub_cancel]

/-! ## One attempt -/

variable {s cfg r waits}

theorem token_deeds (n : Nat) :
    (s.client cfg).token (s.deeds cfg r waits n ++ waitBefore waits n) =
      (.ok (s.token.map fun token => token (n + 1)),
        s.deeds cfg r waits n ++ waitBefore waits n ++
          s.token.toList.map fun token => .read (token (n + 1))) := by
  unfold Client.token client
  cases ht : s.token with
  | none => simp
  | some token =>
    have hreads :
        ((s.deeds cfg r waits n ++ waitBefore waits n).filterMap Deed.read?).length = n := by
      rw [List.filterMap_append, read_deeds, read_waitBefore, List.append_nil, ht]
      simp
    simp only [Option.map_some, hreads]
    rfl

theorem attempts_before (n : Nat) (reads : List String) :
    attempts (s.deeds cfg r waits n ++ waitBefore waits n ++ reads.map Deed.read) = n := by
  have hreads : (reads.map Deed.read).filterMap Deed.sent? = [] := by
    rw [List.filterMap_map]
    exact List.filterMap_eq_nil_iff.mpr fun _ _ => rfl
  rw [attempts, List.filterMap_append, List.filterMap_append, hreads, sent_waitBefore,
    List.append_nil, List.append_nil]
  exact s.attempts_deeds cfg r waits n

/-- The wait before a retry is the one that the schedule gives for its number. -/
theorem pause_deeds {n : Nat} {d : Duration}
    (hd : cfg.backoff.delay? (n + 1) (s.factor (n + 1)) = some d) :
    (s.client cfg).pause s.index (n + 1) (s.deeds cfg r waits (n + 1)) =
      (false, s.deeds cfg r waits (n + 1) ++ [.waited d]) := by
  have hwaits : ((s.deeds cfg r waits (n + 1)).filterMap Deed.waited?).length = n := by
    rw [waited_deeds, List.length_map, List.length_range, Nat.add_sub_cancel]
  have hfactor : s.index.factor (s.deeds cfg r waits (n + 1)) =
      (s.factor (n + 1), s.deeds cfg r waits (n + 1)) := by
    show (s.factor (((s.deeds cfg r waits (n + 1)).filterMap Deed.waited?).length + 1), _) = _
    rw [hwaits]
  have hdelay : (s.client cfg).config.backoff.delay? (n + 1) (s.factor (n + 1)) = some d := hd
  simp only [Client.pause, hfactor, hdelay]
  rfl

theorem attempt_deeds (n : Nat) :
    ((s.client cfg).line s.index r).attempt (s.token.map fun token => token (n + 1))
        (s.deeds cfg r waits n ++ waitBefore waits n ++
          s.token.toList.map fun token => Deed.read (token (n + 1))) =
      (s.outcome (n + 1), s.deeds cfg r waits (n + 1)) := by
  have hcount : attempts (s.deeds cfg r waits n ++ waitBefore waits n ++
      (s.token.toList.map fun token => token (n + 1)).map Deed.read) = n := attempts_before n _
  rw [List.map_map] at hcount
  refine Prod.ext ?_ ?_
  · exact congrArg (fun k => s.outcome (k + 1)) hcount
  · rw [deeds, attempt, ← List.append_assoc]
    rfl

/-- One turn of the loop: an attempt with all that comes before it, and then the next turn, unless
the outcome is final or no retry is left. -/
theorem post_deeds {left n : Nat}
    (hw : 0 < left → cfg.backoff.delay? (n + 1) (s.factor (n + 1)) = some (waits (n + 1))) :
    ((s.client cfg).line s.index r).post left n (s.deeds cfg r waits n ++ waitBefore waits n) =
      if isFinal (s.outcome (n + 1)) = true ∨ left = 0 then
        (s.outcome (n + 1), s.deeds cfg r waits (n + 1))
      else
        ((s.client cfg).line s.index r).post (left - 1) (n + 1)
          (s.deeds cfg r waits (n + 1) ++ waitBefore waits (n + 1)) := by
  rw [Line.post, if_neg (by exact Bool.false_ne_true),
    show ((s.client cfg).line s.index r).token _ = _ from token_deeds n]
  dsimp only
  rw [attempt_deeds]
  cases ho : s.outcome (n + 1) with
  | ok a => rfl
  | error e =>
    dsimp only
    cases he : e.isRetryable with
    | false => simp [isFinal, he]
    | true =>
      cases left with
      | zero => simp
      | succ left =>
        have hpause : ((s.client cfg).line s.index r).pause (n + 1) (s.deeds cfg r waits (n + 1)) =
            _ := pause_deeds (hw (Nat.succ_pos left))
        have hgoes : ¬ (isFinal (.error e) = true ∨ left + 1 = 0) := by simp [isFinal, he]
        rw [if_neg hgoes, hpause]
        rfl

/-- The loop makes attempts up to the first final one, or up to the last one that it may make. -/
theorem post_eq {left n m : Nat} (hm : n < m) (hlast : m ≤ n + left + 1)
    (hw : ∀ i, n < i → i ≤ n + left → cfg.backoff.delay? i (s.factor i) = some (waits i))
    (hearlier : ∀ j, n < j → j < m → isFinal (s.outcome j) = false)
    (hends : isFinal (s.outcome m) = true ∨ m = n + left + 1) :
    ((s.client cfg).line s.index r).post left n (s.deeds cfg r waits n ++ waitBefore waits n) =
      (s.outcome m, s.deeds cfg r waits m) := by
  induction left generalizing n with
  | zero =>
    have hmn : m = n + 1 := by omega
    rw [post_deeds (fun h => absurd h (Nat.lt_irrefl 0)), if_pos (.inr rfl), hmn]
  | succ left ih =>
    rw [post_deeds fun _ => hw (n + 1) (by omega) (by omega)]
    by_cases hmn : m = n + 1
    · rcases hends with hfinal | hover
      · rw [hmn] at hfinal
        rw [if_pos (.inl hfinal), hmn]
      · omega
    · have hgoes : ¬ (isFinal (s.outcome (n + 1)) = true ∨ left + 1 = 0) := by
        rw [hearlier (n + 1) (by omega) (by omega)]
        simp
      rw [if_neg hgoes]
      refine ih (by omega) (by omega) (fun i hi hle => hw i (by omega) (by omega))
        (fun j hj => hearlier j (by omega)) ?_
      rcases hends with hfinal | hover
      · exact .inl hfinal
      · exact .inr (by omega)

/-- A call makes attempts up to the first final one, or as many as it may. -/
theorem send_eq {m : Nat} (hm : 1 ≤ m) (hlast : m ≤ cfg.maxRetries + 1)
    (hw : ∀ i, 1 ≤ i → i ≤ cfg.maxRetries →
      cfg.backoff.delay? i (s.factor i) = some (waits i))
    (hearlier : ∀ j, 1 ≤ j → j < m → isFinal (s.outcome j) = false)
    (hends : isFinal (s.outcome m) = true ∨ m = cfg.maxRetries + 1) :
    (s.client cfg).send s.index r [] = (s.outcome m, s.deeds cfg r waits m) := by
  show ((s.client cfg).line s.index r).post cfg.maxRetries 0 (s.deeds cfg r waits 0 ++ []) = _
  refine post_eq hm (by omega) (fun i hi hle => hw i hi (by omega)) hearlier ?_
  rwa [Nat.zero_add]

/-! ## The law -/

variable (s cfg r waits)

/-- What a call does and comes to that makes so many attempts. -/
structure Makes (call : Except SyncError Response × List Deed) (n : Nat) : Prop where
  /-- It returns what the last attempt came to. -/
  answer : call.1 = s.outcome n
  /-- Waits, readings of the token and sendings come in their order. -/
  order : call.2 = s.deeds cfg r waits n
  /-- There are so many sendings, all of the same request. -/
  sent : call.2.filterMap Deed.sent? =
    (List.range n).map fun i => (cfg.url, s.token.map fun token => token (i + 1), r)
  /-- The token, if there is one, is read once for each sending. -/
  read : call.2.filterMap Deed.read? =
    (List.range n).filterMap fun i => s.token.map fun token => token (i + 1)
  /-- Before each retry the wait of its number is waited. -/
  waited : call.2.filterMap Deed.waited? = (List.range (n - 1)).map fun i => waits (i + 1)

theorem makes_deeds (n : Nat) : s.Makes cfg r waits (s.outcome n, s.deeds cfg r waits n) n :=
  ⟨rfl, rfl, s.sent_deeds cfg r waits n, s.read_deeds cfg r waits n, s.waited_deeds cfg r waits n⟩

/-- The law of retries for one call. -/
structure KeepsLaw (call : Except SyncError Response × List Deed) : Prop where
  /-- Only an accepted request and a partial failure are final. -/
  kinds : ∀ k, IsOutcome (s.outcome k) → (isFinal (s.outcome k) = true ↔
    (∃ a, s.outcome k = .ok a) ∨ ∃ a, s.outcome k = .error (.partialFailure a))
  /-- The first final outcome ends the call if it comes in time. -/
  final : ∀ k, s.FirstFinal k → k ≤ cfg.maxRetries + 1 → s.Makes cfg r waits call k
  /-- Otherwise the call ends with the error of the last attempt that may be made. -/
  exhausted : (∀ k, s.FirstFinal k → cfg.maxRetries + 1 < k) →
    s.Makes cfg r waits call (cfg.maxRetries + 1) ∧ ∃ e, call.1 = .error e
  /-- The number of a retry is never greater than the number of retries allowed. -/
  retries : (call.2.filterMap Deed.waited?).length ≤ cfg.maxRetries
  /-- A request counts as accepted only if its last sending was accepted. -/
  accepted : ∀ a, call.1 = .ok a → s.outcome (attempts call.2) = .ok a
  /-- Nothing is sent after a partial failure. -/
  refused : ∀ j a, 1 ≤ j → s.outcome j = .error (.partialFailure a) → attempts call.2 ≤ j

variable {s cfg r waits}

/-- Up to a limit before which no first final outcome comes, there is no final outcome at all. -/
theorem isFinal_eq_false {limit : Nat} (hnone : ∀ k, s.FirstFinal k → limit < k) (j : Nat)
    (hj : 1 ≤ j) (hle : j ≤ limit) : isFinal (s.outcome j) = false := by
  induction j using Nat.strongRecOn with
  | ind j ih =>
    cases hf : isFinal (s.outcome j) with
    | false => rfl
    | true =>
      have hfirst : s.FirstFinal j := ⟨hj, hf, fun i hi hlt => ih i hlt hi (by omega)⟩
      have := hnone j hfirst
      omega

section Calls

variable (hw : ∀ i, 1 ≤ i → i ≤ cfg.maxRetries →
  cfg.backoff.delay? i (s.factor i) = some (waits i))

include hw

theorem makes_of_firstFinal {k : Nat} (hk : s.FirstFinal k) (hle : k ≤ cfg.maxRetries + 1) :
    s.Makes cfg r waits ((s.client cfg).send s.index r []) k := by
  obtain ⟨hk1, hfinal, hearlier⟩ := hk
  rw [send_eq hk1 hle hw hearlier (.inl hfinal)]
  exact s.makes_deeds cfg r waits k

theorem makes_of_exhausted (hnone : ∀ k, s.FirstFinal k → cfg.maxRetries + 1 < k) :
    s.Makes cfg r waits ((s.client cfg).send s.index r []) (cfg.maxRetries + 1) := by
  have hfalse := isFinal_eq_false hnone
  rw [send_eq (Nat.succ_pos _) (Nat.le_refl _) hw (fun j hj hlt => hfalse j hj (by omega))
    (.inr rfl)]
  exact s.makes_deeds cfg r waits (cfg.maxRetries + 1)

/-- In any case a call makes so many attempts as it may at most, and only the last of them can have
come to a final outcome. -/
theorem exists_makes : ∃ n, n ≤ cfg.maxRetries + 1 ∧
    s.Makes cfg r waits ((s.client cfg).send s.index r []) n ∧
    ∀ j, 1 ≤ j → j < n → isFinal (s.outcome j) = false := by
  by_cases h : ∃ k, s.FirstFinal k ∧ k ≤ cfg.maxRetries + 1
  · obtain ⟨k, hk, hle⟩ := h
    exact ⟨k, hle, makes_of_firstFinal hw hk hle, hk.2.2⟩
  · have hnone : ∀ k, s.FirstFinal k → cfg.maxRetries + 1 < k := fun k hk =>
      Nat.lt_of_not_le fun hle => h ⟨k, hk, hle⟩
    exact ⟨_, Nat.le_refl _, makes_of_exhausted hw hnone, fun j hj hlt =>
      isFinal_eq_false hnone j hj (by omega)⟩

end Calls

theorem Makes.attempts_eq {call : Except SyncError Response × List Deed} {n : Nat}
    (h : s.Makes cfg r waits call n) : attempts call.2 = n := by
  rw [h.order, attempts_deeds]

/-- Every call keeps the law of retries, whatever its attempts come to, as long as the schedule has
a wait for every retry. -/
theorem keepsLaw_send (s : Script) (cfg : ClientConfig) (r : Request) (waits : Nat → Duration)
    (hw : ∀ i, 1 ≤ i → i ≤ cfg.maxRetries →
      cfg.backoff.delay? i (s.factor i) = some (waits i)) :
    s.KeepsLaw cfg r waits ((s.client cfg).send s.index r []) := by
  obtain ⟨n, hle, hmakes, hearlier⟩ := exists_makes (r := r) hw
  refine ⟨fun _ => isFinal_iff, fun k hk hk' => makes_of_firstFinal hw hk hk', fun hnone => ?_, ?_,
    fun a ha => ?_, fun j a hj ha => ?_⟩
  · have hlast := makes_of_exhausted (r := r) hw hnone
    have hfalse := isFinal_eq_false hnone (cfg.maxRetries + 1) (Nat.succ_pos _) (Nat.le_refl _)
    refine ⟨hlast, ?_⟩
    rw [hlast.answer]
    cases ho : s.outcome (cfg.maxRetries + 1) with
    | ok a =>
      rw [ho] at hfalse
      cases hfalse
    | error e => exact ⟨e, rfl⟩
  · rw [hmakes.waited, List.length_map, List.length_range]
    omega
  · rw [hmakes.attempts_eq, ← hmakes.answer, ha]
  · rw [hmakes.attempts_eq]
    refine Nat.le_of_not_lt fun hlt => ?_
    have hno := hearlier j hj hlt
    rw [ha] at hno
    cases hno

/-- Two attempts come to nothing, and the third is refused in part; the token changes meanwhile. -/
def hiccups : Script where
  outcome
    | 1 => .error (.status 503 "busy")
    | 2 => .error (.http "reset")
    | _ => .error (.partialFailure ⟨false, none, some ⟨"PARTIAL", "",
        some ⟨0, 0, [⟨"default:v1:Pod:a", "no"⟩]⟩⟩⟩)
  token := some fun k => if k = 1 then "old" else "new"
  factor _ := Double.ofNat 1

theorem keepsLaw_send_hiccups :
    let cfg := ClientConfig.new "http://index"
    let waits i := Duration.ofSeconds (Nat.pow 2 (i - 1))
    let call := (hiccups.client cfg).send hiccups.index ⟨[], ["default:v1:Pod:a"], false⟩ []
    (∀ i, 1 ≤ i → i ≤ cfg.maxRetries →
      cfg.backoff.delay? i (hiccups.factor i) = some (waits i)) ∧
      hiccups.FirstFinal 3 ∧ attempts call.2 = 3 ∧
      call.2.filterMap Deed.waited? = [.ofSeconds 1, .ofSeconds 2] ∧
      hiccups.KeepsLaw cfg ⟨[], ["default:v1:Pod:a"], false⟩ waits call := by
  intro cfg waits call
  have hw : ∀ i, 1 ≤ i → i ≤ cfg.maxRetries →
      cfg.backoff.delay? i (hiccups.factor i) = some (waits i) := by
    intro i hi hle
    have h3 : cfg.maxRetries = 3 := rfl
    rw [h3] at hle
    obtain rfl | rfl | rfl : i = 1 ∨ i = 2 ∨ i = 3 := by omega
    all_goals decide +kernel
  have hfirst : hiccups.FirstFinal 3 := by
    refine ⟨by decide, rfl, fun j hj hlt => ?_⟩
    obtain rfl | rfl : j = 1 ∨ j = 2 := by omega
    all_goals rfl
  have hlaw := keepsLaw_send hiccups cfg ⟨[], ["default:v1:Pod:a"], false⟩ waits hw
  have hmakes := hlaw.final 3 hfirst (by decide)
  exact ⟨hw, hfirst, hmakes.attempts_eq, hmakes.waited, hlaw⟩

end Script

end ClusterFeed.Sync
