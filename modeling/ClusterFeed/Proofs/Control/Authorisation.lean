import ClusterFeed.Control.Outside
import ClusterFeed.Proofs.Buffer.Effect
import ClusterFeed.Proofs.Buffer.Overlap
import ClusterFeed.Proofs.Sync.Stopping
import ClusterFeed.Proofs.Text.Trimming

/-!
# No request without a token

A client whose token stands in a secret asks the cluster for the secret before each attempt, and the
request carries the token that the answer tells. An answer that tells none ends the call, and what
was to be sent waits again. The secret may change at any time: the cluster and the index are any
operations whatever, and all that is exchanged with them is written down beside their state.

The call is `post`, the question goes out in `token`, and what was to be sent is put back by
`requeue`.
-/

namespace ClusterFeed

namespace Sync

open Cluster (Access Reply Secret SecretKey Target)
open Text (Trims)

/-! ## What an answer tells -/

/-- What stands under a key of a secret: octets, or, if there are none, a text. -/
inductive Stands (secret : Secret) (key : String) : String → Prop where
  | octets {bytes : List UInt8} (h : secret.data[key]? = some bytes) :
    Stands secret key (Text.decodeLenient bytes)
  | text {value : String} (hnone : secret.data[key]? = none)
    (h : secret.texts[key]? = some value) : Stands secret key value

/-- What the answer to a question for a secret tells of the token at a place. -/
inductive Tells (scope : String) (place : SecretKey) (reply : Reply) :
    Except CredentialError String → Prop where
  /-- The token is what stands there without the blanks around it. -/
  | token {secret : Secret} {value t : String} (hread : reply.read? Secret.decode = .ok secret)
    (hvalue : Stands secret place.key value) (ht : Trims value t) (hne : t ≠ "") :
    Tells scope place reply (.ok t)
  /-- Nothing but blanks stands there. -/
  | blank {secret : Secret} {value : String} (hread : reply.read? Secret.decode = .ok secret)
    (hvalue : Stands secret place.key value) (ht : Trims value "") :
    Tells scope place reply (.error (.keyMissing scope place.name place.key))
  /-- Nothing at all stands there. -/
  | missing {secret : Secret} (hread : reply.read? Secret.decode = .ok secret)
    (hnone : ∀ value, ¬ Stands secret place.key value) :
    Tells scope place reply (.error (.keyMissing scope place.name place.key))
  /-- There is no such secret. -/
  | gone {e : Cluster.Failure} (hread : reply.read? Secret.decode = .error e)
    (hgone : e.isNotFound = true) : Tells scope place reply (.error (.notFound scope place.name))
  /-- The secret could not be read. -/
  | unread {e : Cluster.Failure} (hread : reply.read? Secret.decode = .error e)
    (hthere : e.isNotFound = false) : Tells scope place reply (.error (.backend e.message))

variable {scope : String} {place : SecretKey} {reply : Reply} {secret : Secret}

theorem stands_iff {key value : String} :
    Stands secret key value ↔ secret.value? key = some value := by
  unfold Secret.value?
  constructor
  · intro h
    cases h with
    | octets h => rw [h]; rfl
    | text hnone h => rw [hnone, h]; rfl
  · intro h
    cases hdata : secret.data[key]? with
    | some bytes =>
      rw [hdata] at h
      cases h
      exact .octets hdata
    | none =>
      rw [hdata] at h
      exact .text hdata h

theorem token?_eq_some_iff {key t : String} :
    secret.token? key = some t ↔ t ≠ "" ∧ ∃ value, Stands secret key value ∧ Trims value t := by
  unfold Secret.token?
  simp only [Option.filter_eq_some_iff, Option.map_eq_some_iff, stands_iff, Text.trims_iff,
    bne_iff_ne]
  exact and_comm

/-- What is made of an answer. -/
def answerOf (scope : String) (place : SecretKey) (reply : Reply) :
    Except CredentialError String :=
  match reply.read? Secret.decode with
  | .error e => .error (if e.isNotFound then .notFound scope place.name else .backend e.message)
  | .ok secret =>
    match secret.token? place.key with
    | some t => .ok t
    | none => .error (.keyMissing scope place.name place.key)

theorem tells_answerOf (scope : String) (place : SecretKey) (reply : Reply) :
    Tells scope place reply (answerOf scope place reply) := by
  unfold answerOf
  cases hread : reply.read? Secret.decode with
  | error e =>
    dsimp only
    cases he : e.isNotFound with
    | true => exact .gone hread he
    | false => exact .unread hread he
  | ok secret =>
    dsimp only
    cases ht : secret.token? place.key with
    | some t =>
      obtain ⟨hne, value, hvalue, htrims⟩ := token?_eq_some_iff.mp ht
      exact .token hread hvalue htrims hne
    | none =>
      by_cases hnone : ∃ value, Stands secret place.key value
      · obtain ⟨value, hvalue⟩ := hnone
        have htrims := Text.trims_trim value
        have hempty : Text.trim value = "" := by
          by_contra hne
          rw [token?_eq_some_iff.mpr ⟨hne, value, hvalue, htrims⟩] at ht
          cases ht
        exact .blank hread hvalue (hempty ▸ htrims)
      · exact .missing hread (not_exists.mp hnone)

/-- An answer tells nothing but what is made of it. -/
theorem Tells.eq_answerOf {answer : Except CredentialError String}
    (h : Tells scope place reply answer) : answer = answerOf scope place reply := by
  -- what stands under a key and what is left of it without blanks is one text only
  have hnothing : ∀ {secret : Secret},
      (∀ value t, Stands secret place.key value → Trims value t → t = "") →
      secret.token? place.key = none := by
    intro secret h
    refine Option.eq_none_iff_forall_ne_some.mpr fun t ht => ?_
    obtain ⟨hne, value, hvalue, htrims⟩ := token?_eq_some_iff.mp ht
    exact hne (h value t hvalue htrims)
  unfold answerOf
  cases h with
  | token hread hvalue ht hne => simp only [hread, token?_eq_some_iff.mpr ⟨hne, _, hvalue, ht⟩]
  | blank hread hvalue ht =>
    have hnone := hnothing fun value' t hvalue' ht' => by
      have hsame := (stands_iff.mp hvalue').symm.trans (stands_iff.mp hvalue)
      rw [Option.some_inj] at hsame
      rw [← Text.trims_iff.mp ht', hsame, Text.trims_iff.mp ht]
    simp only [hread, hnone]
  | missing hread hnone =>
    have hnone := hnothing fun value _ hvalue => absurd hvalue (hnone value)
    simp only [hread, hnone]
  | gone hread hgone => simp only [hread, hgone, if_true]
  | unread hread hthere => simp only [hread, hthere, Bool.false_eq_true, if_false]

/-- The question for a secret. -/
def question (scope : String) (place : SecretKey) : String := Secret.path scope place.name ++ "?"

/-- The failure of a question that cannot be sent. -/
def unsendable (flaw : Target.Flaw) : CredentialError :=
  .backend (Cluster.Failure.invalid flaw).message

variable {σ τ : Type}

/-- A question that can be sent is answered, and the token is what is made of the answer. -/
theorem readToken_of_ok {target : Target} (h : Target.ofText? (question scope place) = .ok target)
    (c : Access σ) (s : σ) : Cluster.readToken c scope place s =
      (answerOf scope place (c.get target s).1, (c.get target s).2) := by
  have hfetch : c.fetch (Secret.path scope place.name ++ "?") Secret.decode s =
      ((c.get target s).1.read? Secret.decode, (c.get target s).2) := by
    unfold Access.fetch
    rw [show Secret.path scope place.name ++ "?" = question scope place from rfl, h]
  unfold Cluster.readToken Secret.fetch? answerOf
  rw [hfetch]
  cases (c.get target s).1.read? Secret.decode with
  | error e => cases he : e.isNotFound <;> simp [he]
  | ok secret => cases ht : secret.token? place.key <;> simp [ht]

theorem readToken_of_error {flaw : Target.Flaw}
    (h : Target.ofText? (question scope place) = .error flaw) (c : Access σ) (s : σ) :
    Cluster.readToken c scope place s = (.error (unsendable flaw), s) := by
  have hfetch : c.fetch (Secret.path scope place.name ++ "?") Secret.decode s =
      (.error (.invalid flaw), s) := by
    unfold Access.fetch
    rw [show Secret.path scope place.name ++ "?" = question scope place from rfl, h]
  unfold Cluster.readToken Secret.fetch?
  rw [hfetch]
  rfl

/-! ## Other surroundings that do the same -/

/-- The surroundings of a client do the same as others whose state is a part of theirs. -/
structure Mirrors (line : Line τ) (line' : Line σ) (part : τ → σ) : Prop where
  isCancelled : ∀ t, line.isCancelled t = line'.isCancelled (part t)
  token : ∀ t, (line.token t).map id part = line'.token (part t)
  attempt : ∀ token t, (line.attempt token t).map id part = line'.attempt token (part t)
  pause : ∀ retry t, (line.pause retry t).map id part = line'.pause retry (part t)

theorem Mirrors.turn {line : Line τ} {line' : Line σ} {part : τ → σ} (h : Mirrors line line' part)
    {left done : Nat} (hrest : left ≠ 0 → ∀ t,
      (line.post (left - 1) (done + 1) t).map id part =
        line'.post (left - 1) (done + 1) (part t)) (t : τ) :
    (line.post left done t).map id part = line'.post left done (part t) := by
  cases hgo : line.isCancelled t with
  | true =>
    rw [Line.post_of_isCancelled hgo, Line.post_of_isCancelled (h.isCancelled t ▸ hgo)]
    rfl
  | false =>
    have hgo' : line'.isCancelled (part t) = false := h.isCancelled t ▸ hgo
    have htoken := h.token t
    rcases ht : line.token t with ⟨e | token, t⟩
    · rw [ht] at htoken
      rw [Line.post_of_refusal hgo ht, Line.post_of_refusal hgo' htoken.symm]
      rfl
    · rw [ht] at htoken
      rw [Line.post_of_token hgo ht, Line.post_of_token hgo' htoken.symm, ← h.attempt]
      dsimp only [Prod.map, id]
      split
      · rfl
      · rename_i hgoes
        rw [← h.pause]
        unfold Line.resume
        dsimp only [Prod.map, id]
        split
        · rfl
        · exact hrest (not_or.mp hgoes).2 _

theorem Mirrors.post {line : Line τ} {line' : Line σ} {part : τ → σ} (h : Mirrors line line' part)
    (left done : Nat) (t : τ) :
    (line.post left done t).map id part = line'.post left done (part t) := by
  induction left generalizing done t with
  | zero => exact h.turn (fun hne => absurd rfl hne) t
  | succ left ih =>
    have hrest : left + 1 ≠ 0 → _ := fun _ => ih (done + 1)
    exact h.turn hrest t

end Sync

namespace Control

open Cluster (Access Reply SecretKey Target)
open Sync

variable {σ : Type}

/-! ## What is written down -/

/-- Something that a client exchanges with the cluster or the index. -/
inductive Exchange where
  /-- It asks the cluster, and is answered. -/
  | asked (target : Target) (reply : Reply)
  /-- It sends a request to an address, with the header that authorises it, and this is what comes
  of it. -/
  | sent (url : String) (authorization : Option String) (r : Request)
    (outcome : Except SyncError Response)

namespace Exchange

/-- Whether the cluster is asked. -/
def isAsked : Exchange → Bool
  | asked _ _ => true
  | _ => false

/-- Whether a request is sent. -/
def isSent : Exchange → Bool
  | sent _ _ _ _ => true
  | _ => false

/-- The header that authorises a request. -/
def authorization? : Exchange → Option String
  | sent _ authorization _ _ => authorization
  | _ => none

end Exchange

/-- A client whose token stands in a secret, and the request that it is to send. -/
structure Mandate (σ : Type) where
  /-- How the client is set up. -/
  config : ClientConfig
  /-- The cluster. -/
  cluster : Access σ
  /-- The index. -/
  index : IndexAccess σ
  /-- The namespace of the secret. -/
  scope : String
  /-- The place of the token. -/
  place : SecretKey
  /-- The request. -/
  request : Request

namespace Mandate

/-- The client. -/
def client (x : Mandate σ) : Client σ :=
  ⟨x.config, some (Cluster.readToken x.cluster x.scope x.place)⟩

/-- The client sends the request. -/
def send (x : Mandate σ) (s : σ) : Except SyncError Response × σ :=
  x.client.send x.index x.request s

/-- The same, with all that is exchanged written down beside the state of the surroundings. -/
def noted (x : Mandate σ) : Mandate (σ × List Exchange) where
  config := x.config
  cluster :=
    { get t s := ((x.cluster.get t s.1).1, (x.cluster.get t s.1).2,
        s.2 ++ [.asked t (x.cluster.get t s.1).1])
      patch p s := ((x.cluster.patch p s.1).1, (x.cluster.patch p s.1).2, s.2)
      watch path s := ((x.cluster.watch path s.1).1, (x.cluster.watch path s.1).2, s.2) }
  index :=
    { isCancelled s := x.index.isCancelled s.1
      attempt url token r s := ((x.index.attempt url token r s.1).1,
        (x.index.attempt url token r s.1).2,
        s.2 ++ [.sent url (token.map bearer) r (x.index.attempt url token r s.1).1])
      factor s := ((x.index.factor s.1).1, (x.index.factor s.1).2, s.2)
      pause d s := ((x.index.pause d s.1).1, (x.index.pause d s.1).2, s.2) }
  scope := x.scope
  place := x.place
  request := x.request

/-- What surrounds the client. -/
def line (x : Mandate σ) : Line σ := x.client.line x.index x.request

/-- What the call comes to, and what is exchanged in it. -/
def call (x : Mandate σ) (s : σ) : Except SyncError Response × List Exchange :=
  ((x.noted.send (s, [])).1, (x.noted.send (s, [])).2.2)

/-- The target of the question for the secret. -/
def target? (x : Mandate σ) : Except Target.Flaw Target :=
  Target.ofText? (question x.scope x.place)

/-- What an answer tells of the token. -/
def Tells (x : Mandate σ) (reply : Reply) (answer : Except CredentialError String) : Prop :=
  Sync.Tells x.scope x.place reply answer

variable {x : Mandate σ} {s s' : σ} {es log rest : List Exchange} {left done most : Nat}
  {answer : Except SyncError Response}

theorem token_of_ok {target : Target} (h : x.target? = .ok target) (s : σ) : x.line.token s =
    ((answerOf x.scope x.place (x.cluster.get target s).1).map some,
      (x.cluster.get target s).2) := by
  simp only [line, Client.line, Client.token, client, readToken_of_ok h]

theorem token_of_error {flaw : Target.Flaw} (h : x.target? = .error flaw) (s : σ) :
    x.line.token s = (.error (unsendable flaw), s) := by
  simp only [line, Client.line, Client.token, client, readToken_of_error h, Except.map]

theorem pause_eq (x : Mandate σ) (retry : Nat) (s : σ) : x.line.pause retry s =
    match x.config.backoff.delay? retry (x.index.factor s).1 with
    | some d => x.index.pause d (x.index.factor s).2
    | none => (true, (x.index.factor s).2) := by
  unfold line Client.line Client.pause client
  rfl

/-- A wait is not written down. -/
theorem pause_noted (x : Mandate σ) (retry : Nat) (s : σ) (es : List Exchange) :
    x.noted.line.pause retry (s, es) =
      ((x.line.pause retry s).1, (x.line.pause retry s).2, es) := by
  rw [pause_eq, pause_eq]
  show (match x.config.backoff.delay? retry (x.index.factor s).1 with
    | some d => _
    | none => _) = _
  cases x.config.backoff.delay? retry (x.index.factor s).1 <;> rfl

/-- Writing down changes nothing. -/
theorem mirrors_noted (x : Mandate σ) : Mirrors x.noted.line x.line Prod.fst where
  isCancelled t := rfl
  token t := by
    cases h : x.target? with
    | error flaw =>
      have hnoted : x.noted.target? = .error flaw := h
      rw [token_of_error h, token_of_error hnoted]
      rfl
    | ok target =>
      have hnoted : x.noted.target? = .ok target := h
      rw [token_of_ok h, token_of_ok hnoted]
      rfl
  attempt token t := rfl
  pause retry t := by
    rw [pause_noted]
    rfl

/-! ## The course of a call -/

/-- An attempt: the question for the secret, the token that the answer tells, and what comes of the
request. -/
structure Visit (σ : Type) where
  /-- The world when it begins. -/
  before : σ
  /-- What is asked. -/
  target : Target
  /-- The answer. -/
  reply : Reply
  /-- The token. -/
  token : String
  /-- What comes of the request. -/
  outcome : Except SyncError Response
  /-- The world when the request has been answered or has failed. -/
  after : σ

/-- What is exchanged in an attempt. -/
def exchanges (x : Mandate σ) (v : Visit σ) : List Exchange :=
  [.asked v.target v.reply,
    .sent x.config.url (some ("Bearer " ++ v.token)) x.request v.outcome]

/-- In an attempt the secret is asked for, and the request is sent with the token that the answer
tells. -/
structure Makes (x : Mandate σ) (v : Visit σ) : Prop where
  /-- It is not made by a client that has been stopped. -/
  runs : x.index.isCancelled v.before = false
  asked : x.target? = .ok v.target
  replied : (x.cluster.get v.target v.before).1 = v.reply
  told : x.Tells v.reply (.ok v.token)
  attempted : x.index.attempt x.config.url (some v.token) x.request
    (x.cluster.get v.target v.before).2 = (v.outcome, v.after)

/-- How a call ends after `done` earlier attempts and some more, in a world `s`, with what is
exchanged behind the last of them. -/
inductive Closes (x : Mandate σ) (done : Nat) (visits : List (Visit σ)) :
    List Exchange → Except SyncError Response → σ → Prop where
  /-- It comes to what the last attempt came to. -/
  | answered {v : Visit σ} (h : visits.getLast? = some v) :
    Closes x done visits [] v.outcome v.after
  /-- It is found before an attempt that the client has been stopped. -/
  | stopped {s : σ} (h : x.index.isCancelled s = true) :
    Closes x done visits [] (.error .cancelled) s
  /-- The client is stopped while it waits after the last attempt. -/
  | interrupted {v : Visit σ} {d : Time.Duration} {s : σ} (hlast : visits.getLast? = some v)
    (hdelay : x.config.backoff.delay? (done + visits.length) (x.index.factor v.after).1 = some d)
    (h : x.index.pause d (x.index.factor v.after).2 = (true, s)) :
    Closes x done visits [] (.error .cancelled) s
  /-- The wait after the last attempt is too long to be begun. -/
  | unbegun {v : Visit σ} (hlast : visits.getLast? = some v)
    (hdelay : x.config.backoff.delay? (done + visits.length) (x.index.factor v.after).1 = none) :
    Closes x done visits [] (.error .cancelled) (x.index.factor v.after).2
  /-- The cluster tells no token. -/
  | refused {target : Target} {s s' : σ} {reply : Reply} {e : CredentialError}
    (hasked : x.target? = .ok target) (hreplied : x.cluster.get target s = (reply, s'))
    (h : x.Tells reply (.error e)) :
    Closes x done visits [.asked target reply] (.error (.credential e)) s'
  /-- The question cannot be sent. -/
  | unsendable {flaw : Target.Flaw} {s : σ} (h : x.target? = .error flaw) :
    Closes x done visits [] (.error (.credential (unsendable flaw))) s

/-- After `done` earlier attempts a call makes so many more at most, one after the other, and then
ends. What it comes to and what is exchanged in it is `call`, and `s` is the world at its end. -/
structure Course (x : Mandate σ) (done most : Nat) (visits : List (Visit σ))
    (rest : List Exchange) (call : Except SyncError Response × List Exchange) (s : σ) : Prop where
  /-- What is exchanged in the attempts comes first. -/
  exchanged : call.2 = visits.flatMap x.exchanges ++ rest
  /-- Each attempt is made with a token that was told for it. -/
  makes : ∀ v ∈ visits, x.Makes v
  /-- There are not too many. -/
  length_le : visits.length ≤ most
  /-- Then the call ends. -/
  closes : x.Closes done visits rest call.1 s

variable {v : Visit σ} {visits : List (Visit σ)}

theorem Closes.cons (h : x.Closes (done + 1) visits rest answer s) (v : Visit σ) :
    x.Closes done (v :: visits) rest answer s := by
  have hlast : ∀ {v'}, visits.getLast? = some v' → (v :: visits).getLast? = some v' := by
    intro v' h
    rw [List.getLast?_cons, h]
    rfl
  have hcount : done + (v :: visits).length = done + 1 + visits.length := by
    rw [List.length_cons]
    omega
  cases h with
  | answered h => exact .answered (hlast h)
  | stopped h => exact .stopped h
  | interrupted h hdelay hpause => exact .interrupted (hlast h) (hcount ▸ hdelay) hpause
  | unbegun h hdelay => exact .unbegun (hlast h) (hcount ▸ hdelay)
  | refused hasked hreplied h => exact .refused hasked hreplied h
  | unsendable h => exact .unsendable h

theorem Course.cons (hv : x.Makes v) (h : x.Course (done + 1) most visits rest (answer, log) s) :
    x.Course done (most + 1) (v :: visits) rest (answer, x.exchanges v ++ log) s where
  exchanged := by
    rw [List.flatMap_cons, List.append_assoc, ← h.exchanged]
  makes := List.forall_mem_cons.mpr ⟨hv, h.makes⟩
  length_le := Nat.succ_le_succ h.length_le
  closes := h.closes.cons v

/-- What a turn does: it ends the call, or it is an attempt after which another turn follows. -/
inductive Turn (x : Mandate σ) (left done : Nat) (s : σ) (es : List Exchange) : Prop where
  | ends {visits : List (Visit σ)} {rest log : List Exchange} {answer : Except SyncError Response}
    {s' : σ} (heq : x.noted.line.post left done (s, es) = (answer, s', es ++ log))
    (h : x.Course done 1 visits rest (answer, log) s')
  | goesOn {v : Visit σ} {s' : σ} (hleft : left ≠ 0) (hv : x.Makes v)
    (heq : x.noted.line.post left done (s, es) =
      x.noted.line.post (left - 1) (done + 1) (s', es ++ x.exchanges v))

/-- A turn in which nothing is sent ends the call. -/
theorem Turn.of_closes
    (heq : x.noted.line.post left done (s, es) = (answer, s', es ++ rest))
    (h : x.Closes done [] rest answer s') : x.Turn left done s es :=
  .ends heq ⟨rfl, List.forall_mem_nil _, Nat.zero_le 1, h⟩

/-- A wait that does not end by itself ends the call. -/
theorem closes_of_pause {v : Visit σ} (h : (x.line.pause (done + 1) v.after).1 = true) :
    x.Closes done [v] [] (.error .cancelled) (x.line.pause (done + 1) v.after).2 := by
  rw [pause_eq] at h ⊢
  cases hdelay : x.config.backoff.delay? (done + 1) (x.index.factor v.after).1 with
  | none => exact .unbegun rfl hdelay
  | some d =>
    rw [hdelay] at h
    exact .interrupted rfl hdelay (Prod.ext h rfl)

/-- A turn in which the cluster tells a token is an attempt. -/
theorem turn_of_told {target : Target} {t : String} (hgo : x.index.isCancelled s = false)
    (htarget : x.target? = .ok target)
    (hanswer : answerOf x.scope x.place (x.cluster.get target s).1 = .ok t) :
    x.Turn left done s es := by
  let reply := (x.cluster.get target s).1
  let o := x.index.attempt x.config.url (some t) x.request (x.cluster.get target s).2
  let v : Visit σ := ⟨s, target, reply, t, o.1, o.2⟩
  have hv : x.Makes v :=
    ⟨hgo, htarget, rfl, hanswer ▸ tells_answerOf x.scope x.place reply, rfl⟩
  have hone : ∀ {answer : Except SyncError Response} {s' : σ},
      x.Closes done [v] [] answer s' → x.Course done 1 [v] [] (answer, x.exchanges v) s' :=
    fun h => ⟨rfl, List.forall_mem_singleton.mpr hv, Nat.le_refl 1, h⟩
  have hnoted : x.noted.target? = .ok target := htarget
  have htoken : x.noted.line.token (s, es) =
      ((answerOf x.scope x.place reply).map some, (x.cluster.get target s).2,
        es ++ [.asked target reply]) := token_of_ok hnoted (s, es)
  rw [hanswer] at htoken
  have hattempt : x.noted.line.attempt (some t)
      ((x.cluster.get target s).2, es ++ [.asked target reply]) =
        (o.1, o.2, es ++ x.exchanges v) :=
    Prod.ext rfl (Prod.ext rfl (List.append_assoc _ _ _))
  have hpost := Line.post_of_token hgo htoken left done
  rw [hattempt] at hpost
  by_cases hends : isFinal o.1 = true ∨ left = 0
  · rw [if_pos hends] at hpost
    have hanswered : x.Closes done [v] [] v.outcome v.after := .answered rfl
    exact .ends hpost (hone hanswered)
  · rw [if_neg hends, pause_noted, Line.resume] at hpost
    cases hstopped : (x.line.pause (done + 1) o.2).1 with
    | true =>
      rw [hstopped] at hpost
      exact .ends hpost (hone (closes_of_pause (v := v) hstopped))
    | false =>
      rw [hstopped] at hpost
      exact .goesOn (not_or.mp hends).2 hv hpost

theorem turn (x : Mandate σ) (left done : Nat) (s : σ) (es : List Exchange) :
    x.Turn left done s es := by
  cases hgo : x.index.isCancelled s with
  | true =>
    have hpost : x.noted.line.post left done (s, es) = (.error .cancelled, s, es) :=
      Line.post_of_isCancelled hgo left done
    exact .of_closes (hpost.trans (by rw [List.append_nil])) (.stopped hgo)
  | false =>
    cases htarget : x.target? with
    | error flaw =>
      have hnoted : x.noted.target? = .error flaw := htarget
      have hpost : x.noted.line.post left done (s, es) = _ :=
        Line.post_of_refusal hgo (token_of_error hnoted (s, es)) left done
      exact .of_closes (hpost.trans (by rw [List.append_nil])) (.unsendable htarget)
    | ok target =>
      cases hanswer : answerOf x.scope x.place (x.cluster.get target s).1 with
      | error e =>
        have hnoted : x.noted.target? = .ok target := htarget
        have htoken : x.noted.line.token (s, es) =
          ((answerOf x.scope x.place (x.cluster.get target s).1).map some, _, _) :=
            token_of_ok hnoted (s, es)
        have htells := tells_answerOf x.scope x.place (x.cluster.get target s).1
        rw [hanswer] at htoken htells
        exact .of_closes (Line.post_of_refusal hgo htoken left done) (.refused htarget rfl htells)
      | ok t => exact turn_of_told hgo htarget hanswer

/-- A call makes at most one attempt more than it has retries left, and then ends. -/
theorem exists_course (x : Mandate σ) (left done : Nat) (s : σ) (es : List Exchange) :
    ∃ visits rest log answer s', x.noted.line.post left done (s, es) = (answer, s', es ++ log) ∧
      x.Course done (left + 1) visits rest (answer, log) s' := by
  induction left generalizing done s es with
  | zero =>
    cases x.turn 0 done s es with
    | ends heq h => exact ⟨_, _, _, _, _, heq, h⟩
    | goesOn hleft => exact absurd rfl hleft
  | succ left ih =>
    cases x.turn (left + 1) done s es with
    | ends heq h =>
      exact ⟨_, _, _, _, _, heq, { h with length_le := Nat.le_trans h.length_le (by omega) }⟩
    | @goesOn v s' _ hv heq =>
      obtain ⟨visits, rest, log, answer, s'', heq', h⟩ := ih (done + 1) s' (es ++ x.exchanges v)
      refine ⟨v :: visits, rest, x.exchanges v ++ log, answer, s'', ?_, h.cons hv⟩
      rw [heq, ← List.append_assoc]
      exact heq'

/-! ## Single exchanges -/

theorem Closes.rest_cases (h : x.Closes done visits rest answer s) : rest = [] ∨
    ∃ target reply e, rest = [.asked target reply] ∧ x.Tells reply (.error e) ∧
      answer = .error (.credential e) := by
  cases h with
  | refused _ _ h => exact .inr ⟨_, _, _, rfl, h, rfl⟩
  | _ => exact .inl rfl

/-- The last exchange is a question for the secret whose answer tells a token. -/
def Told (x : Mandate σ) (es : List Exchange) (t : String) : Prop :=
  ∃ earlier target reply, es = earlier ++ [.asked target reply] ∧ x.target? = .ok target ∧
    x.Tells reply (.ok t)

/-- What a request carries was told right before it. -/
theorem sent_of_makes (hmakes : ∀ v ∈ visits, x.Makes v)
    (hrest : ∀ e ∈ rest, e.isSent = false) {before after : List Exchange} {url : String}
    {authorization : Option String} {r : Request} {outcome : Except SyncError Response}
    (h : visits.flatMap x.exchanges ++ rest =
      before ++ .sent url authorization r outcome :: after) :
    url = x.config.url ∧ r = x.request ∧
      ∃ t, authorization = some ("Bearer " ++ t) ∧ x.Told before t := by
  induction visits generalizing before with
  | nil =>
    have hmem : .sent url authorization r outcome ∈ rest := by
      rw [show rest = before ++ _ from h]
      exact List.mem_append_right _ List.mem_cons_self
    cases hrest _ hmem
  | cons v visits ih =>
    have hv := hmakes v List.mem_cons_self
    -- an attempt is two exchanges, and what follows may be one of the next attempt
    rcases before with _ | ⟨first, _ | ⟨second, before⟩⟩
    · injection h with hfirst
      cases hfirst
    · injection h with hfirst h
      injection h with hsecond
      injection hsecond with hurl hauthorization hr
      subst hfirst
      exact ⟨hurl.symm, hr.symm, v.token, hauthorization.symm, [], v.target, v.reply, rfl, hv.asked,
        hv.told⟩
    · have htail : visits.flatMap x.exchanges ++ rest =
          before ++ .sent url authorization r outcome :: after := congrArg (List.drop 2) h
      obtain ⟨hurl, hr, t, ht, earlier, target, reply, hbefore, htarget, htold⟩ :=
        ih (fun v' hv' => hmakes v' (List.mem_cons_of_mem _ hv')) htail
      refine ⟨hurl, hr, t, ht, first :: second :: earlier, target, reply, ?_, htarget, htold⟩
      rw [hbefore]
      rfl

/-- An answer that tells no token comes last, after as many requests as questions. -/
theorem last_of_refusal (hmakes : ∀ v ∈ visits, x.Makes v)
    (hrest : rest = [] ∨ ∃ target reply e, rest = [.asked target reply] ∧
      x.Tells reply (.error e) ∧ answer = .error (.credential e))
    {before after : List Exchange} {target : Target} {reply : Reply} {e : CredentialError}
    (htells : x.Tells reply (.error e))
    (h : visits.flatMap x.exchanges ++ rest = before ++ .asked target reply :: after) :
    after = [] ∧ answer = .error (.credential e) ∧
      before.countP Exchange.isSent = before.countP Exchange.isAsked := by
  induction visits generalizing before with
  | nil =>
    have hrest' : rest = before ++ .asked target reply :: after := h
    rcases hrest with hnone | ⟨target', reply', e', hone, htells', hanswer⟩
    · rw [hnone] at hrest'
      cases (List.append_eq_nil_iff.mp hrest'.symm).2
    · rw [hone] at hrest'
      cases before with
      | nil =>
        cases hrest'
        cases htells.eq_answerOf.trans htells'.eq_answerOf.symm
        exact ⟨rfl, hanswer, rfl⟩
      | cons first before =>
        injection hrest' with _ hnil
        cases (List.append_eq_nil_iff.mp hnil.symm).2
  | cons v visits ih =>
    have hv := hmakes v List.mem_cons_self
    rcases before with _ | ⟨first, _ | ⟨second, before⟩⟩
    · cases h
      have hsame := htells.eq_answerOf.trans hv.told.eq_answerOf.symm
      cases hsame
    · cases h
    · have htail : visits.flatMap x.exchanges ++ rest = before ++ .asked target reply :: after :=
        congrArg (List.drop 2) h
      obtain ⟨hafter, hanswer, hcount⟩ :=
        ih (fun v' hv' => hmakes v' (List.mem_cons_of_mem _ hv')) htail
      refine ⟨hafter, hanswer, ?_⟩
      injection h with hfirst h
      injection h with hsecond _
      subst hfirst hsecond
      simp [List.countP_cons, Exchange.isSent, Exchange.isAsked, hcount]

/-! ## The whole call -/

/-- A feed with an index whose token stands in a secret sends its requests so. -/
theorem transport_eq_send (o : Outside σ) (opts : Options) (scope : String) {settings : Settings}
    {place : SecretKey} (hauth : settings.auth = some place) (htarget : settings.hasTarget = true) :
    transport o opts scope settings = some fun r =>
      send ⟨opts.clientConfig settings.endpoint, o.cluster, o.index, scope, place, r⟩ := by
  rw [transport, if_pos htarget, clientFor, hauth]
  rfl

/-- What holds of a call, and of the buffer that makes it. -/
structure Authorised (x : Mandate σ) (s : σ) : Prop where
  /-- Writing down changes neither the answer nor the surroundings. -/
  same : (x.noted.send (s, [])).map id Prod.fst = x.send s
  /-- Attempts follow one another, each with a question of its own, and then the call ends. -/
  course : ∃ visits rest,
    x.Course 0 (x.config.maxRetries + 1) visits rest (x.call s) (x.send s).2
  /-- Every request carries the token that was told right before it. -/
  sent : ∀ before url authorization r outcome after,
    (x.call s).2 = before ++ .sent url authorization r outcome :: after →
      url = x.config.url ∧ r = x.request ∧
        ∃ t, authorization = some ("Bearer " ++ t) ∧ x.Told before t
  /-- When an answer tells no token, the call fails for this cause, nothing comes after it, and
  there were as many attempts as questions before. -/
  refused : ∀ before target reply after e, x.Tells reply (.error e) →
    (x.call s).2 = before ++ .asked target reply :: after →
      after = [] ∧ (x.call s).1 = .error (.credential e) ∧
        (x.call s).2.countP Exchange.isSent = before.countP Exchange.isAsked
  /-- When the question cannot be sent, the call fails before anything is sent. -/
  unsendable : ∀ flaw, x.target? = .error flaw → x.index.isCancelled s = false →
    x.call s = (.error (.credential (unsendable flaw)), [])
  /-- A buffer whose sending fails for want of a token holds its batch again, but for the ids of
  which something has come in meanwhile. -/
  requeued : ∀ (b : Buffer) (during : List Change) (e : CredentialError), b.attached = true →
    b.pending ≠ ∅ → x.request = Buffer.batchRequest b.pending →
    (x.send s).1 = .error (.credential e) →
      (b.flush (x.send s).1 during).1 = .error (.credential e) ∧
        (b.flush (x.send s).1 during).2.1 = [x.request] ∧
        (∀ id : String, (b.flush (x.send s).1 during).2.2.pending[id]? =
          (Change.settle none (Change.withId id during)).or b.pending[id]?) ∧
        (b.flush (x.send s).1 []).2.2.pending = b.pending

theorem send_noted (x : Mandate σ) (s : σ) (es : List Exchange) :
    x.noted.send (s, es) = x.noted.line.post x.config.maxRetries 0 (s, es) := rfl

/-- No request is sent without a token that was read for it, whatever the cluster answers and the
index does. -/
theorem requests_are_authorised (x : Mandate σ) (s : σ) : x.Authorised s := by
  obtain ⟨visits, rest, log, answer, s', heq, hcourse⟩ :=
    x.exists_course x.config.maxRetries 0 s []
  have hcall : x.call s = (answer, log) := by
    rw [call, send_noted, heq]
    rfl
  have hsame : (x.noted.send (s, [])).map id Prod.fst = x.send s :=
    x.mirrors_noted.post x.config.maxRetries 0 (s, [])
  have hworld : (x.send s).2 = s' := by
    rw [← hsame, send_noted, heq]
    rfl
  have hrest := hcourse.closes.rest_cases
  refine ⟨hsame, ⟨visits, rest, hcall ▸ hworld ▸ hcourse⟩, ?_, ?_, ?_, ?_⟩
  · intro before url authorization r outcome after h
    rw [hcall] at h
    have hasked : ∀ e ∈ rest, e.isSent = false := by
      rcases hrest with hnone | ⟨target, reply, e, hone, -⟩
      · rw [hnone]
        exact List.forall_mem_nil _
      · rw [hone]
        exact List.forall_mem_singleton.mpr rfl
    exact sent_of_makes hcourse.makes hasked (hcourse.exchanged.symm.trans h)
  · intro before target reply after e htells h
    rw [hcall] at h ⊢
    obtain ⟨hafter, hanswer, hcount⟩ :=
      last_of_refusal hcourse.makes hrest htells (hcourse.exchanged.symm.trans h)
    refine ⟨hafter, hanswer, ?_⟩
    rw [show log = before ++ [.asked target reply] from hafter ▸ h, List.countP_append, hcount]
    rfl
  · intro flaw hflaw hgo
    have hnoted : x.noted.target? = .error flaw := hflaw
    have hpost : x.noted.line.post x.config.maxRetries 0 (s, []) = _ :=
      Line.post_of_refusal hgo (token_of_error hnoted (s, [])) _ _
    rw [call, send_noted, hpost]
  · intro b during e ha hp hr herror
    have hpartial : (SyncError.credential e).partial? = none := rfl
    rw [herror]
    refine ⟨?_, ?_, Buffer.getElem?_flush_failed ha hp hpartial during, ?_⟩
    · rw [Buffer.flush_of_attached hp ha]
      dsimp only
      rw [Buffer.endFlush_failed hpartial]
    · rw [Buffer.flush_of_attached hp ha, hr]
    · refine Std.ExtTreeMap.ext_getElem? fun id => ?_
      rw [Buffer.getElem?_flush_failed ha hp hpartial [] id]
      rfl

/-- The secret is there for the first question only, and the index is busy. -/
def rotated : Mandate Nat where
  config := .new "http://index"
  cluster :=
    { get _ asked := (if asked = 0 then
          ⟨200, "\x7b\"stringData\":\x7b\"token\":\" one \"\x7d\x7d"⟩
        else .notFound, asked + 1)
      patch _ asked := (.notFound, asked)
      watch _ asked := (false, asked) }
  index :=
    { isCancelled _ := false
      attempt _ _ _ asked := (.error (.status 503 "busy"), asked)
      factor asked := (Double.ofNat 1, asked)
      pause _ asked := (false, asked) }
  scope := "prod"
  place := ⟨"login", "token"⟩
  request := ⟨[], ["prod:v1:Pod:web"], false⟩

/-- The second question ends the call, after one attempt. -/
example : (rotated.call 0).1 = .error (.credential (.notFound "prod" "login")) ∧
    (rotated.call 0).2.filterMap Exchange.authorization? = ["Bearer one"] := by
  decide +kernel

end Mandate

end Control

end ClusterFeed
