import ClusterFeed.Proofs.Sync.Retries

/-!
# Stopping a client

The feed may be stopped at any instant of a call: before it, while a token is read, while a request
is under way, during a wait, or just when a wait ends. The client looks at two places only, before
an attempt and during a wait, and when the stop and the end of a wait come together it may take
either for what woke it. The clock of a call tells all these instants apart, and all that the client
does is written down with the times at which it does it.

Up to the last attempt everything happens before the stop, so it is the last attempt alone that the
stop can meet.

The call is `post`, with a cancellation token that is cancelled at some instant.
-/

namespace ClusterFeed.Sync

open Time (Duration)

/-- Something that a client does, and when. -/
inductive Note where
  /-- It reads its token for an attempt; when it checked that it may go on. -/
  | read (number checked : Nat)
  /-- It sends the request of an attempt; when it checked that it may go on, and when it began. -/
  | sent (number checked begun : Nat)
  /-- It waits after an attempt, from one instant to another. -/
  | waited (number begun ended : Nat)
  deriving DecidableEq

namespace Note

/-- The attempt to which something belongs that is done for one. -/
def attempt? : Note → Option Nat
  | read number _ => some number
  | sent number _ _ => some number
  | waited _ _ _ => none

/-- When the client checked before the attempt to which something belongs. -/
def checked? : Note → Option Nat
  | read _ checked => some checked
  | sent _ checked _ => some checked
  | waited _ _ _ => none

/-- Whether a request is begun at an instant or later. -/
def isSentFrom (t : Nat) : Note → Bool
  | sent _ _ begun => t ≤ begun
  | _ => false

/-- All of it happens before an instant. -/
def IsBefore (t : Nat) : Note → Prop
  | read _ checked => checked < t
  | sent _ checked begun => checked < t ∧ begun < t
  | waited _ _ ended => ended < t

end Note

/-- How far a client has come with a call. -/
structure Diary where
  /-- The time. -/
  now : Nat
  /-- The number of the present attempt, counted from one. -/
  number : Nat
  /-- When the client checked before the present attempt. -/
  checked : Nat
  /-- What it has done, the oldest first. -/
  notes : List Note
  deriving DecidableEq

namespace Diary

/-- The beginning of a call. -/
def start (t : Nat) : Diary := ⟨t, 1, t, []⟩

/-- The last attempt that was begun. -/
def lastAttempt? (d : Diary) : Option Nat := (d.notes.filterMap Note.attempt?).getLast?

end Diary

/-- What a client meets in a call, and when. Attempts are counted from one, and so are the waits
that follow them; times are in nanoseconds. -/
structure Timetable where
  /-- What an attempt comes to. -/
  outcome : Nat → Except SyncError Response
  /-- What reading the token for an attempt comes to, if requests carry one. -/
  token : Option (Nat → Except CredentialError String)
  /-- The random factors of the waits. -/
  factor : Nat → Double
  /-- When the feed is stopped. -/
  stoppedAt : Nat
  /-- How long it takes to read the token for an attempt. -/
  reading : Nat → Nat
  /-- How long it takes from there until the request is sent. -/
  preparing : Nat → Nat
  /-- How long it takes from there until the attempt has come to something. -/
  answering : Nat → Nat
  /-- How much later than it could the client looks up from a wait. -/
  lag : Nat → Nat
  /-- How long it takes from there until the client checks again. -/
  resuming : Nat → Nat
  /-- Whether the end of a wait comes first when the stop is there as well. -/
  sleepWins : Nat → Bool

/-- What follows a wait. -/
def Line.resume {σ : Type} (line : Line σ) (left done : Nat) (woken : Bool × σ) :
    Except SyncError Response × σ :=
  if woken.1 then (.error .cancelled, woken.2) else line.post left (done + 1) woken.2

theorem Line.post_of_isCancelled {σ : Type} {line : Line σ} {s : σ} (h : line.isCancelled s = true)
    (left done : Nat) : line.post left done s = (.error .cancelled, s) := by
  rw [Line.post, if_pos h]

theorem Line.post_of_refusal {σ : Type} {line : Line σ} {s s' : σ} {e : CredentialError}
    (hgo : line.isCancelled s = false) (ht : line.token s = (.error e, s')) (left done : Nat) :
    line.post left done s = (.error (.credential e), s') := by
  rw [Line.post, hgo, ht]
  rfl

/-- A turn of the loop in which a request is sent: what it comes to decides what follows. -/
theorem Line.post_of_token {σ : Type} {line : Line σ} {s s' : σ} {token : Option String}
    (hgo : line.isCancelled s = false) (ht : line.token s = (.ok token, s')) (left done : Nat) :
    line.post left done s =
      if isFinal (line.attempt token s').1 = true ∨ left = 0 then line.attempt token s'
      else line.resume (left - 1) done (line.pause (done + 1) (line.attempt token s').2) := by
  rw [Line.post, hgo, ht]
  dsimp only [Bool.false_eq_true, if_false]
  cases ha : line.attempt token s' with
  | mk o s'' =>
    cases o with
    | ok a => rfl
    | error e =>
      dsimp only
      cases he : e.isRetryable with
      | false => simp [isFinal, he]
      | true =>
        cases left with
        | zero => simp
        | succ left =>
          have hgoes : ¬ (isFinal (.error e) = true ∨ left + 1 = 0) := by simp [isFinal, he]
          rw [if_neg hgoes, Line.resume]
          dsimp only [Nat.add_sub_cancel]
          rcases line.pause (done + 1) s'' with ⟨_ | _, s⟩ <;> rfl

namespace Timetable

/-- The client reads the token for the present attempt. -/
def read (c : Timetable) (d : Diary) : Diary :=
  { d with
    now := d.now + c.reading d.number
    notes := d.notes ++ [.read d.number d.checked] }

/-- The client sends the request of the present attempt, and there is an answer or none. -/
def request (c : Timetable) (d : Diary) : Diary :=
  { d with
    now := d.now + c.preparing d.number + c.answering d.number
    notes := d.notes ++ [.sent d.number d.checked (d.now + c.preparing d.number)] }

/-- When the client looks up from a wait: once the wait is over or the feed is stopped. -/
def wakes (c : Timetable) (delay : Duration) (d : Diary) : Nat :=
  max d.now (min c.stoppedAt (d.now + delay.nanos)) + c.lag d.number

/-- Whether the client takes the stop for what woke it. -/
def isInterrupted (c : Timetable) (delay : Duration) (d : Diary) : Bool :=
  c.stoppedAt ≤ c.wakes delay d &&
    !(d.now + delay.nanos ≤ c.wakes delay d && c.sleepWins d.number)

/-- The client waits after the present attempt. -/
def wait (c : Timetable) (delay : Duration) (d : Diary) : Diary where
  now := c.wakes delay d + c.resuming d.number
  number := d.number + 1
  checked := c.wakes delay d + c.resuming d.number
  notes := d.notes ++ [.waited d.number d.now (c.wakes delay d)]

/-- An index that keeps to the timetable. -/
def index (c : Timetable) : IndexAccess Diary where
  isCancelled d := c.stoppedAt ≤ d.now
  attempt _ _ _ d := (c.outcome d.number, c.request d)
  factor d := (c.factor d.number, d)
  pause delay d := (c.isInterrupted delay d, c.wait delay d)

/-- A client whose tokens are those of the timetable. -/
def client (c : Timetable) (cfg : ClientConfig) : Client Diary where
  config := cfg
  tokens := c.token.map fun token d => (token d.number, c.read d)

/-- What surrounds the sending of a request. -/
def line (c : Timetable) (cfg : ClientConfig) (r : Request) : Line Diary :=
  (c.client cfg).line c.index r

variable (c : Timetable) (cfg : ClientConfig)

/-- The token for an attempt can be had, if it needs one. -/
def HasToken (k : Nat) : Prop := ∀ token ∈ c.token, ∃ t, token k = .ok t

/-- An attempt ends the call by itself. -/
inductive Ends (k : Nat) : Except SyncError Response → Prop where
  /-- There is no token for it. -/
  | credential {token : Nat → Except CredentialError String} {e : CredentialError}
    (ht : c.token = some token) (he : token k = .error e) : Ends k (.error (.credential e))
  /-- It is accepted, or it fails for good. -/
  | final (ht : c.HasToken k) (h : isFinal (c.outcome k) = true) : Ends k (c.outcome k)
  /-- It is the last one that may be made. -/
  | exhausted (ht : c.HasToken k) (h : k = cfg.maxRetries + 1) : Ends k (c.outcome k)

/-- A call that begins at an instant heeds the stop. -/
structure HeedsStop (start : Nat) (call : Except SyncError Response × Diary) : Prop where
  /-- No attempt is begun after the stop: the check before each of them came earlier. -/
  checked : ∀ n ∈ call.2.notes, ∀ t ∈ n.checked?, t < c.stoppedAt
  /-- At most one request is sent after the stop. -/
  sentOnce : (call.2.notes.filter (·.isSentFrom c.stoppedAt)).length ≤ 1
  /-- It is the one of the last attempt. -/
  sentLast : ∀ n ∈ call.2.notes, n.isSentFrom c.stoppedAt = true →
    n.attempt? = call.2.lastAttempt?
  /-- If the last attempt ends the call by itself, the call comes to what it came to. -/
  ended : ∀ k o, call.2.lastAttempt? = some k → c.Ends cfg k o → call.1 = o
  /-- If not, the call is cancelled. -/
  cancelled : (∀ k o, call.2.lastAttempt? = some k → ¬ c.Ends cfg k o) →
    call.1 = .error .cancelled
  /-- A call is not cancelled before the stop, except when a wait does not fit a duration. -/
  notBefore : call.1 = .error .cancelled → c.stoppedAt ≤ call.2.now ∨
    ∃ k, call.2.lastAttempt? = some k ∧
      (c.Ends cfg k (.error .cancelled) ∨ cfg.backoff.delay? k (c.factor k) = none)
  /-- After a stop before the call nothing is done. -/
  before : c.stoppedAt ≤ start → call = (.error .cancelled, .start start)
  /-- After a stop during a wait, up to its very end, nothing more is done. -/
  waiting : ∀ k begun ended, .waited k begun ended ∈ call.2.notes → c.stoppedAt ≤ ended →
    call.1 = .error .cancelled ∧ call.2.notes.getLast? = some (.waited k begun ended)

variable {c} (r : Request) {d : Diary} {left done : Nat} {delay : Duration}

/-! ## Waking up -/

theorem wakes_le (d : Diary) : d.now ≤ c.wakes delay d := by
  unfold wakes
  omega

theorem stopped_of_isInterrupted (h : c.isInterrupted delay d = true) :
    c.stoppedAt ≤ c.wakes delay d := by
  unfold isInterrupted at h
  rw [Bool.and_eq_true, decide_eq_true_eq] at h
  exact h.1

/-! ## Getting a token -/

/-- The token is read, if requests carry one. -/
def withToken (c : Timetable) (d : Diary) : Diary :=
  match c.token with
  | none => d
  | some _ => c.read d

theorem not_hasToken {token : Nat → Except CredentialError String} {e : CredentialError} {k : Nat}
    (ht : c.token = some token) (he : token k = .error e) : ¬ c.HasToken k := by
  intro h
  obtain ⟨t, hok⟩ := h token ht
  cases he.symm.trans hok

theorem token_line (d : Diary) : (c.line cfg r).token d =
    match c.token with
    | none => (.ok none, d)
    | some token => ((token d.number).map some, c.read d) := by
  show (c.client cfg).token d = _
  unfold Client.token client
  cases c.token <;> rfl

theorem exists_refusal {k : Nat} (h : ¬ c.HasToken k) :
    ∃ token e, c.token = some token ∧ token k = .error e := by
  obtain ⟨token, hno⟩ := Classical.not_forall.mp h
  obtain ⟨ht, hno⟩ := Classical.not_imp.mp hno
  cases he : token k with
  | error e => exact ⟨token, e, ht, he⟩
  | ok t => exact absurd ⟨t, he⟩ hno

theorem exists_token (h : c.HasToken d.number) :
    ∃ token, (c.line cfg r).token d = (.ok token, c.withToken d) := by
  rw [token_line, withToken]
  cases ht : c.token with
  | none => exact ⟨none, rfl⟩
  | some token =>
    obtain ⟨t, hok⟩ := h token ht
    exact ⟨some t, by simp only [hok]; rfl⟩

theorem withToken_number (d : Diary) : (c.withToken d).number = d.number := by
  unfold withToken
  cases c.token <;> rfl

theorem withToken_checked (d : Diary) : (c.withToken d).checked = d.checked := by
  unfold withToken
  cases c.token <;> rfl

/-! ## Before the stop -/

theorem forall_mem_concat {ns : List Note} {n : Note} {p : Note → Prop} (h : ∀ m ∈ ns, p m)
    (hn : p n) : ∀ m ∈ ns ++ [n], p m :=
  List.forall_mem_append.mpr ⟨h, List.forall_mem_singleton.mpr hn⟩

section Before

variable {t : Nat}

theorem isBefore_withToken (h : ∀ n ∈ d.notes, n.IsBefore t) (hchecked : d.checked < t) :
    ∀ n ∈ (c.withToken d).notes, n.IsBefore t := by
  unfold withToken
  cases c.token with
  | none => exact h
  | some _ => exact forall_mem_concat h hchecked

theorem isBefore_request (h : ∀ n ∈ d.notes, n.IsBefore t) (hchecked : d.checked < t)
    (hnow : (c.request d).now < t) : ∀ n ∈ (c.request d).notes, n.IsBefore t := by
  have hbegun : d.now + c.preparing d.number < t := Nat.lt_of_le_of_lt (Nat.le_add_right _ _) hnow
  exact forall_mem_concat h ⟨hchecked, hbegun⟩

theorem isBefore_wait (h : ∀ n ∈ d.notes, n.IsBefore t) (hnow : (c.wait delay d).now < t) :
    ∀ n ∈ (c.wait delay d).notes, n.IsBefore t := by
  have hended : c.wakes delay d < t := Nat.lt_of_le_of_lt (Nat.le_add_right _ _) hnow
  exact forall_mem_concat h hended

end Before

/-- The client is about to check, and all that it has done was before the stop. -/
structure OnTime (c : Timetable) (done : Nat) (d : Diary) : Prop where
  number_eq : d.number = done + 1
  checked_eq : d.checked = d.now
  isBefore : ∀ n ∈ d.notes, n.IsBefore c.stoppedAt
  now_lt : d.now < c.stoppedAt

theorem OnTime.checked_lt (h : c.OnTime done d) : d.checked < c.stoppedAt := by
  rw [h.checked_eq]
  exact h.now_lt

theorem OnTime.wait (h : c.OnTime done d)
    (hnow : (c.wait delay (c.request (c.withToken d))).now < c.stoppedAt) :
    c.OnTime (done + 1) (c.wait delay (c.request (c.withToken d))) := by
  have hrequest : (c.request (c.withToken d)).now < c.stoppedAt :=
    Nat.lt_of_le_of_lt (Nat.le_trans (wakes_le _) (Nat.le_add_right _ _)) hnow
  have htoken := isBefore_withToken (c := c) h.isBefore h.checked_lt
  have hsent := isBefore_request htoken ((withToken_checked d).symm ▸ h.checked_lt) hrequest
  refine ⟨?_, rfl, isBefore_wait hsent hnow, hnow⟩
  show (c.withToken d).number + 1 = _
  rw [withToken_number, h.number_eq]

/-! ## One turn -/

/-- A turn of the loop ends the call. -/
inductive Closes (c : Timetable) (cfg : ClientConfig) (left : Nat) (d : Diary) :
    Except SyncError Response × Diary → Prop where
  | refused {token : Nat → Except CredentialError String} {e : CredentialError}
    (ht : c.token = some token) (he : token d.number = .error e) :
    Closes c cfg left d (.error (.credential e), c.read d)
  | ended (ht : c.HasToken d.number) (h : isFinal (c.outcome d.number) = true ∨ left = 0) :
    Closes c cfg left d (c.outcome d.number, c.request (c.withToken d))
  | unfit (ht : c.HasToken d.number) (h : isFinal (c.outcome d.number) = false) (hleft : left ≠ 0)
      (hdelay : cfg.backoff.delay? d.number (c.factor d.number) = none) :
    Closes c cfg left d (.error .cancelled, c.request (c.withToken d))
  | stopped (ht : c.HasToken d.number) (h : isFinal (c.outcome d.number) = false)
      (hleft : left ≠ 0) {delay : Duration}
      (hstop : c.stoppedAt ≤ (c.wait delay (c.request (c.withToken d))).now) :
    Closes c cfg left d (.error .cancelled, c.wait delay (c.request (c.withToken d)))

theorem isCancelled_of_lt (h : d.now < c.stoppedAt) :
    (c.line cfg r).isCancelled d = false :=
  decide_eq_false (Nat.not_le.mpr h)

theorem post_of_le (h : c.stoppedAt ≤ d.now) (left done : Nat) :
    (c.line cfg r).post left done d = (.error .cancelled, d) :=
  Line.post_of_isCancelled (decide_eq_true h) left done

theorem pause_of_some {retry : Nat}
    (h : cfg.backoff.delay? retry (c.factor d.number) = some delay) :
    (c.line cfg r).pause retry d = (c.isInterrupted delay d, c.wait delay d) := by
  simp only [line, Client.line, Client.pause, client, index, h]

theorem pause_of_none {retry : Nat} (h : cfg.backoff.delay? retry (c.factor d.number) = none) :
    (c.line cfg r).pause retry d = (true, d) := by
  simp only [line, Client.line, Client.pause, client, index, h]

/-- A wait after a turn before the stop ends the call, or the next turn begins before the stop. -/
theorem resume_cases (h : c.OnTime done d) (ht : c.HasToken d.number)
    (hfinal : isFinal (c.outcome d.number) = false) (hleft : left ≠ 0) :
    let call := (c.line cfg r).resume (left - 1) done
      ((c.line cfg r).pause (done + 1) (c.request (c.withToken d)))
    c.Closes cfg left d call ∨
      ∃ d', c.OnTime (done + 1) d' ∧ call = (c.line cfg r).post (left - 1) (done + 1) d' := by
  intro call
  have hnumber : (c.request (c.withToken d)).number = d.number := withToken_number d
  cases hdelay : cfg.backoff.delay? (done + 1) (c.factor d.number) with
  | none =>
    have hpause := pause_of_none cfg r (hnumber.symm ▸ hdelay)
    have hcall : call = (.error .cancelled, c.request (c.withToken d)) := by
      simp only [call, hpause, Line.resume, if_true]
    rw [← h.number_eq] at hdelay
    rw [hcall]
    exact .inl (.unfit ht hfinal hleft hdelay)
  | some delay =>
    have hpause := pause_of_some cfg r (hnumber.symm ▸ hdelay)
    by_cases hstop : c.stoppedAt ≤ (c.wait delay (c.request (c.withToken d))).now
    · -- whatever the client takes for what woke it, the stop is there when it checks
      have hcall : call = (.error .cancelled, c.wait delay (c.request (c.withToken d))) := by
        simp only [call, hpause, Line.resume, post_of_le cfg r hstop, ite_self]
      rw [hcall]
      exact .inl (.stopped ht hfinal hleft hstop)
    · have hwoken : c.isInterrupted delay (c.request (c.withToken d)) = false := by
        refine Bool.eq_false_iff.mpr fun hyes => hstop ?_
        exact Nat.le_trans (stopped_of_isInterrupted hyes) (Nat.le_add_right _ _)
      have hcall : call = (c.line cfg r).post (left - 1) (done + 1)
          (c.wait delay (c.request (c.withToken d))) := by
        simp only [call, hpause, Line.resume, hwoken, Bool.false_eq_true, if_false]
      exact .inr ⟨_, h.wait (Nat.lt_of_not_le hstop), hcall⟩

/-- A turn of the loop before the stop ends the call, or the next one begins before the stop. -/
theorem post_cases (h : c.OnTime done d) :
    c.Closes cfg left d ((c.line cfg r).post left done d) ∨
      ∃ d', left ≠ 0 ∧ c.OnTime (done + 1) d' ∧
        (c.line cfg r).post left done d =
          (c.line cfg r).post (left - 1) (done + 1) d' := by
  have hgo := isCancelled_of_lt cfg r h.now_lt
  by_cases ht : c.HasToken d.number
  · obtain ⟨token, htoken⟩ := exists_token cfg r ht
    have hattempt : (c.line cfg r).attempt token (c.withToken d) =
        (c.outcome d.number, c.request (c.withToken d)) :=
      congrArg (fun k => (c.outcome k, c.request (c.withToken d))) (withToken_number d)
    rw [Line.post_of_token hgo htoken, hattempt]
    by_cases hends : isFinal (c.outcome d.number) = true ∨ left = 0
    · rw [if_pos hends]
      exact .inl (.ended ht hends)
    · obtain ⟨hfinal, hleft⟩ := not_or.mp hends
      rw [if_neg hends]
      have hfinal : isFinal (c.outcome d.number) = false := Bool.eq_false_iff.mpr hfinal
      rcases resume_cases cfg r h ht hfinal hleft with hcloses | ⟨d', hnext, heq⟩
      · exact .inl hcloses
      · exact .inr ⟨d', hleft, hnext, heq⟩
  · obtain ⟨token, e, ht, he⟩ := exists_refusal ht
    have htoken : (c.line cfg r).token d = (.error e, c.read d) := by
      rw [token_line, ht]
      simp only [he]
      rfl
    refine .inl ?_
    rw [Line.post_of_refusal hgo htoken]
    exact .refused ht he

/-! ## The whole call -/

/-- A call that begins before the stop comes to a turn before the stop that ends it. -/
theorem exists_closes (h : c.OnTime done d) (left : Nat) :
    ∃ left' done' d', left' + done' = left + done ∧ c.OnTime done' d' ∧
      c.Closes cfg left' d' ((c.line cfg r).post left done d) := by
  -- a turn that does not end the call leaves the client on time for the next one
  induction left generalizing done d with
  | zero =>
    rcases post_cases cfg r h with hcloses | ⟨_, hne, -⟩
    · exact ⟨0, done, d, rfl, h, hcloses⟩
    · exact absurd rfl hne
  | succ left ih =>
    rcases post_cases cfg r h with hcloses | ⟨d', -, hnext, heq⟩
    · exact ⟨left + 1, done, d, rfl, h, hcloses⟩
    · obtain ⟨left', done', d'', hsum, hlast, hcloses⟩ := ih hnext
      refine ⟨left', done', d'', by omega, hlast, ?_⟩
      rw [heq]
      exact hcloses

/-! ## What the last turn does -/

variable {cfg}

/-- An attempt ends a call in one way only. -/
theorem Ends.unique {k : Nat} {o o' : Except SyncError Response} (h : c.Ends cfg k o)
    (h' : c.Ends cfg k o') : o = o' := by
  cases h with
  | credential ht he =>
    cases h' with
    | credential ht' he' =>
      cases ht.symm.trans ht'
      cases he.symm.trans he'
      rfl
    | final hhas _ => exact absurd hhas (not_hasToken ht he)
    | exhausted hhas _ => exact absurd hhas (not_hasToken ht he)
  | final hhas _ | exhausted hhas _ =>
    cases h' with
    | credential ht he => exact absurd hhas (not_hasToken ht he)
    | final _ _ => rfl
    | exhausted _ _ => rfl

/-- An attempt with a token that may be repeated, and is not the last one, does not end a call. -/
theorem not_ends {k : Nat} (ht : c.HasToken k) (hfinal : isFinal (c.outcome k) = false)
    (hlast : k ≠ cfg.maxRetries + 1) (o : Except SyncError Response) : ¬ c.Ends cfg k o := by
  intro h
  cases h with
  | credential ht' he => exact not_hasToken ht' he ht
  | final _ h =>
    rw [hfinal] at h
    cases h
  | exhausted _ h => exact hlast h

/-- The last turn comes to what its attempt ends the call with, or the call is cancelled because of
the stop or of a wait that does not fit a duration. -/
theorem Closes.ends_or {call : Except SyncError Response × Diary} (h : c.Closes cfg left d call)
    (hd : c.OnTime done d) (hsum : left + done = cfg.maxRetries) :
    c.Ends cfg d.number call.1 ∨
      call.1 = .error .cancelled ∧ (∀ o, ¬ c.Ends cfg d.number o) ∧
        (c.stoppedAt ≤ call.2.now ∨ cfg.backoff.delay? d.number (c.factor d.number) = none) := by
  have hnumber := hd.number_eq
  cases h with
  | refused ht he => exact .inl (.credential ht he)
  | ended ht h =>
    rcases h with hfinal | hleft
    · exact .inl (.final ht hfinal)
    · exact .inl (.exhausted ht (by omega))
  | unfit ht hfinal hleft hdelay =>
    exact .inr ⟨rfl, not_ends ht hfinal (by omega), .inr hdelay⟩
  | stopped ht hfinal hleft hstop =>
    exact .inr ⟨rfl, not_ends ht hfinal (by omega), .inl hstop⟩

/-- No attempt is begun after the stop, and the last one alone sends its request then. -/
structure Heeds (c : Timetable) (k : Nat) (d : Diary) : Prop where
  checked : ∀ n ∈ d.notes, ∀ t ∈ n.checked?, t < c.stoppedAt
  sentOnce : (d.notes.filter (·.isSentFrom c.stoppedAt)).length ≤ 1
  sentLast : ∀ n ∈ d.notes, n.isSentFrom c.stoppedAt = true → n.attempt? = some k
  last : d.lastAttempt? = some k

theorem checked_of_isBefore {n : Note} {t : Nat} (h : n.IsBefore t) :
    ∀ t' ∈ n.checked?, t' < t := by
  intro t' ht'
  cases n with
  | read _ checked =>
    cases ht'
    exact h
  | sent _ checked _ =>
    cases ht'
    exact h.1
  | waited _ _ _ => cases ht'

theorem isSentFrom_of_isBefore {n : Note} {t : Nat} (h : n.IsBefore t) :
    n.isSentFrom t = false := by
  cases n with
  | sent _ _ begun => exact decide_eq_false (Nat.not_le.mpr h.2)
  | read _ _ => rfl
  | waited _ _ _ => rfl

/-- All is done before the stop but for the last thing, which is done for an attempt that was begun
before it. -/
theorem heeds_of_append {k : Nat} {d' : Diary} {n : Note}
    (h : ∀ n ∈ d.notes, n.IsBefore c.stoppedAt) (hnotes : d'.notes = d.notes ++ [n])
    (hk : n.attempt? = some k) (ht : ∀ t ∈ n.checked?, t < c.stoppedAt) : c.Heeds k d' where
  checked := by
    have hearlier : ∀ n ∈ d.notes, ∀ t ∈ n.checked?, t < c.stoppedAt := by
      intro n hn
      exact checked_of_isBefore (h n hn)
    rw [hnotes]
    exact forall_mem_concat hearlier ht
  sentOnce := by
    have hnone : d.notes.filter (·.isSentFrom c.stoppedAt) = [] := by
      refine List.filter_eq_nil_iff.mpr fun n hn => ?_
      rw [isSentFrom_of_isBefore (h n hn)]
      exact Bool.false_ne_true
    rw [hnotes, List.filter_append, hnone, List.nil_append]
    exact List.length_filter_le _ _
  sentLast := by
    have hearlier : ∀ n ∈ d.notes, n.isSentFrom c.stoppedAt = true → n.attempt? = some k := by
      intro n hn hsent
      rw [isSentFrom_of_isBefore (h n hn)] at hsent
      cases hsent
    rw [hnotes]
    exact forall_mem_concat hearlier fun _ => hk
  last := by
    rw [Diary.lastAttempt?, hnotes, List.filterMap_append, List.filterMap_cons_some hk]
    exact List.getLast?_concat

theorem Heeds.wait {k : Nat} (h : c.Heeds k d) : c.Heeds k (c.wait delay d) where
  checked := by
    refine forall_mem_concat h.checked fun t ht => ?_
    cases ht
  sentOnce := by
    show ((d.notes ++ [_]).filter _).length ≤ 1
    rw [List.filter_append]
    simpa [Note.isSentFrom] using h.sentOnce
  sentLast := by
    refine forall_mem_concat h.sentLast fun hsent => ?_
    cases hsent
  last := by
    show ((d.notes ++ [_]).filterMap Note.attempt?).getLast? = _
    rw [List.filterMap_append]
    exact (congrArg List.getLast? (List.append_nil _)).trans h.last

theorem Closes.heeds {call : Except SyncError Response × Diary} (h : c.Closes cfg left d call)
    (hd : c.OnTime done d) : c.Heeds d.number call.2 := by
  have hread : c.Heeds d.number (c.read d) := by
    refine heeds_of_append hd.isBefore rfl rfl fun t ht => ?_
    cases ht
    exact hd.checked_lt
  have hrequest : c.Heeds d.number (c.request (c.withToken d)) := by
    refine heeds_of_append (isBefore_withToken hd.isBefore hd.checked_lt) rfl
      (congrArg some (withToken_number d)) fun t ht => ?_
    cases ht
    exact (withToken_checked d).symm ▸ hd.checked_lt
  cases h with
  | refused _ _ => exact hread
  | ended _ _ => exact hrequest
  | unfit _ _ _ _ => exact hrequest
  | stopped _ _ _ _ => exact hrequest.wait

/-- A wait in the last turn during which the feed is stopped is the last thing that is done. -/
theorem Closes.waiting {call : Except SyncError Response × Diary} (h : c.Closes cfg left d call)
    (hd : c.OnTime done d) {k begun ended : Nat} (hmem : .waited k begun ended ∈ call.2.notes)
    (hstop : c.stoppedAt ≤ ended) :
    call.1 = .error .cancelled ∧ call.2.notes.getLast? = some (.waited k begun ended) := by
  -- no wait that ended before the stop is meant
  have hbefore : ∀ {d' : Diary}, (∀ n ∈ d'.notes, n.IsBefore c.stoppedAt) →
      .waited k begun ended ∉ d'.notes := by
    intro d' h hmem
    have hearly : ended < c.stoppedAt := h _ hmem
    exact Nat.not_lt.mpr hstop hearly
  have hrequest : .waited k begun ended ∉ (c.request (c.withToken d)).notes := by
    intro hmem
    rcases List.mem_append.mp hmem with hmem | hmem
    · exact hbefore (isBefore_withToken hd.isBefore hd.checked_lt) hmem
    · cases List.mem_singleton.mp hmem
  cases h with
  | refused _ _ =>
    rcases List.mem_append.mp hmem with hmem | hmem
    · exact absurd hmem (hbefore hd.isBefore)
    · cases List.mem_singleton.mp hmem
  | ended _ _ => exact absurd hmem hrequest
  | unfit _ _ _ _ => exact absurd hmem hrequest
  | stopped _ _ _ _ =>
    rcases List.mem_append.mp hmem with hmem | hmem
    · exact absurd hmem hrequest
    · rw [List.mem_singleton.mp hmem]
      exact ⟨rfl, List.getLast?_concat⟩

/-- Whenever the feed is stopped, the call heeds it. -/
theorem heedsStop_send (c : Timetable) (cfg : ClientConfig) (r : Request) (start : Nat) :
    c.HeedsStop cfg start ((c.client cfg).send c.index r (.start start)) := by
  show c.HeedsStop cfg start ((c.line cfg r).post cfg.maxRetries 0 (.start start))
  by_cases hstart : c.stoppedAt ≤ start
  · rw [post_of_le cfg r hstart]
    refine ⟨List.forall_mem_nil _, Nat.zero_le _, List.forall_mem_nil _, ?_, fun _ => rfl,
      fun _ => .inl hstart, fun _ => rfl, ?_⟩
    · intro k o hlast
      cases hlast
    · intro k begun ended hmem
      cases hmem
  · have htop : c.OnTime 0 (.start start) :=
      ⟨rfl, rfl, List.forall_mem_nil _, Nat.lt_of_not_le hstart⟩
    obtain ⟨left, done, d, hsum, hd, hcloses⟩ := exists_closes cfg r htop cfg.maxRetries
    have hheeds := hcloses.heeds hd
    have hends := hcloses.ends_or hd hsum
    refine ⟨hheeds.checked, hheeds.sentOnce, ?_, ?_, ?_, ?_, ?_, ?_⟩
    · rw [hheeds.last]
      exact hheeds.sentLast
    · intro k o hlast ho
      cases hheeds.last.symm.trans hlast
      rcases hends with hends | ⟨-, hno, -⟩
      · exact hends.unique ho
      · exact absurd ho (hno o)
    · intro hno
      rcases hends with hends | ⟨hcancelled, -⟩
      · exact absurd hends (hno _ _ hheeds.last)
      · exact hcancelled
    · intro hcancelled
      rcases hends with hends | ⟨-, -, hstop | hdelay⟩
      · exact .inr ⟨d.number, hheeds.last, .inl (hcancelled ▸ hends)⟩
      · exact .inl hstop
      · exact .inr ⟨d.number, hheeds.last, .inr hdelay⟩
    · intro h
      exact absurd h hstart
    · intro k begun ended hmem hstop
      exact hcloses.waiting hd hmem hstop

/-- The index is busy whenever it is asked, and a client that may go on or stop goes on. -/
def busy (stoppedAt : Nat) : Timetable where
  outcome _ := .error (.status 503 "busy")
  token := some fun _ => .ok "key"
  factor _ := Double.ofNat 1
  stoppedAt := stoppedAt
  reading _ := 5
  preparing _ := 2
  answering _ := 3
  lag _ := 0
  resuming _ := 0
  sleepWins _ := true

/-- Stopped while it reads its token, the client sends its request and then waits no more; stopped
at the very end of its first wait, it makes no second attempt. -/
theorem heedsStop_send_busy :
    let cfg := ClientConfig.new "http://index"
    let r : Request := ⟨[], ["default:v1:Pod:a"], false⟩
    let call t := ((busy t).client cfg).send (busy t).index r (.start 0)
    (call 3).2.notes = [.read 1 0, .sent 1 0 7, .waited 1 10 10] ∧
      (call 3).1 = .error .cancelled ∧
      (call 1000000010).2.notes = [.read 1 0, .sent 1 0 7, .waited 1 10 1000000010] ∧
      (call 1000000010).1 = .error .cancelled := by
  intro cfg r call
  have hearly : (call 3).2.notes = [.read 1 0, .sent 1 0 7, .waited 1 10 10] := by decide +kernel
  have hlate : (call 1000000010).2.notes =
      [.read 1 0, .sent 1 0 7, .waited 1 10 1000000010] := by decide +kernel
  have hlaw : ∀ t, (busy t).HeedsStop cfg 0 (call t) := fun t => heedsStop_send (busy t) cfg r 0
  have hlast : ∀ {t ended : Nat}, t ≤ ended → (call t).2.notes =
      [.read 1 0, .sent 1 0 7, .waited 1 10 ended] → (call t).1 = .error .cancelled := by
    intro t ended hstop hnotes
    have hwaited : .waited 1 10 ended ∈ (call t).2.notes := by simp [hnotes]
    exact ((hlaw t).waiting 1 10 ended hwaited hstop).1
  refine ⟨hearly, ?_, hlate, ?_⟩
  · exact hlast (by decide) hearly
  · exact hlast (Nat.le_refl _) hlate

end Timetable

end ClusterFeed.Sync
