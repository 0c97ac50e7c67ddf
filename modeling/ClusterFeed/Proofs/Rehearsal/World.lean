import ClusterFeed.Proofs.Control.Authorisation
import ClusterFeed.Proofs.Control.Finalizing
import ClusterFeed.Rehearsal.World

/-!
# What a rehearsed world tells and keeps

The requests on one route are answered one after the other by what is written down for it, and the
last answer stays. What is sent to be kept is all there afterwards, in its order, and nothing else
is: a question writes nothing, a configuration that goes leaves the two changes of `cleanup` and
`finalizer`, and a call of `post` leaves its one request as often as it was tried.
-/

namespace ClusterFeed.Rehearsal

open Cluster (Patch Reply Target)

/-! ## Answers in their order -/

/-- The answers that are left after so many. -/
def answersLeft {α : Type} (as : List α) (n : Nat) : List α := as.drop (min n (as.length - 1))

theorem next?_answersLeft {α : Type} {as : List α} (has : as ≠ []) (n : Nat) :
    ∃ a, as[min n (as.length - 1)]? = some a ∧
      next? (answersLeft as n) = some (a, answersLeft as (n + 1)) := by
  have hlength : 0 < as.length := List.length_pos_iff.mpr has
  have hlt : min n (as.length - 1) < as.length := by omega
  refine ⟨as[min n (as.length - 1)], List.getElem?_eq_getElem hlt, ?_⟩
  unfold answersLeft
  rw [List.drop_eq_getElem_cons hlt]
  by_cases hlast : min n (as.length - 1) + 1 < as.length
  · rw [show min (n + 1) (as.length - 1) = min n (as.length - 1) + 1 by omega]
    rw [List.drop_eq_getElem_cons hlast]
    rfl
  · have hnone : as.drop (min n (as.length - 1) + 1) = [] := List.drop_eq_nil_of_le (by omega)
    rw [show min (n + 1) (as.length - 1) = min n (as.length - 1) by omega,
      List.drop_eq_getElem_cons hlt, hnone]
    rfl

namespace Routes

/-- So many answers on a route. -/
def takeMany (route : String) : Nat → Routes → List Reply
  | 0, _ => []
  | n + 1, r =>
    match r.take? route with
    | some (a, r) => a :: takeMany route n r
    | none => []

variable {r : Routes} {route : String} {as : List Reply}

/-- An answer is taken from its own route only. -/
theorem take?_answersLeft (has : as ≠ []) {n : Nat} (hr : r[route]? = some (answersLeft as n)) :
    ∃ a, as[min n (as.length - 1)]? = some a ∧ ∃ r', r.take? route = some (a, r') ∧
      ∀ k : String, r'[k]? = if route = k then some (answersLeft as (n + 1)) else r[k]? := by
  obtain ⟨a, ha, hnext⟩ := next?_answersLeft has n
  refine ⟨a, ha, r.insert route (answersLeft as (n + 1)), ?_,
    fun k => KeyedMap.getElem?_insert_eq r route k _⟩
  unfold take?
  rw [hr, Option.bind_some, hnext]
  rfl

theorem takeMany_answersLeft (has : as ≠ []) (k : Nat) {n : Nat}
    (hr : r[route]? = some (answersLeft as n)) : (takeMany route k r).map some =
      (List.range' n k).map fun i => as[min i (as.length - 1)]? := by
  induction k generalizing r n with
  | zero => rfl
  | succ k ih =>
    obtain ⟨a, ha, r', htake, hr'⟩ := take?_answersLeft has hr
    rw [takeMany, htake, List.range'_succ, List.map_cons, List.map_cons, ha]
    rw [ih ((hr' route).trans (if_pos rfl))]

/-- The answers on a route come in their order, and the last one stays. -/
theorem takeMany_eq (has : as ≠ []) (k : Nat) (hr : r[route]? = some as) :
    (takeMany route k r).map some =
      (List.range k).map fun i => as[min i (as.length - 1)]? := by
  rw [List.range_eq_range']
  exact takeMany_answersLeft has k (by rw [hr, answersLeft, Nat.zero_min, List.drop_zero])

end Routes

namespace World

/-! ## What is written -/

variable (w : World)

theorem written_note (x : Write) : (w.note x).written = w.written ++ [x] := by
  unfold written note
  exact List.reverse_cons

theorem written_reply (method : String) (target : Target) :
    (w.reply method target).2.written = w.written := by
  unfold reply
  split <;> rfl

/-- A question writes nothing. -/
theorem written_fetch {α : Type} (target : String) (d : Json.Decoder α) :
    (cluster.fetch target d w).2.written = w.written := by
  unfold Cluster.Access.fetch
  split
  · rfl
  · exact written_reply w "GET" _

/-- What arrives of a change: all of it, unless its path cannot be sent. -/
def arriving (p : Patch) : List Write :=
  match Target.ofText? p.path with
  | .error _ => []
  | .ok t => [.patch { p with path := t.path }]

/-- A change is kept, whatever the answer. -/
theorem written_apply {α : Type} (p : Patch) (d : Json.Decoder α) :
    (cluster.apply p d w).2.written = w.written ++ arriving p := by
  unfold Cluster.Access.apply arriving
  cases Target.ofText? p.path with
  | error flaw => exact (List.append_nil _).symm
  | ok t =>
    exact (written_reply (w.note (.patch { p with path := t.path })) "PATCH" _).trans
      (written_note w _)

open Control SyncConfig in
/-- A configuration that goes leaves two changes, first its status and then its finalizers. -/
theorem written_reconcile (m : Manager) {c : SyncConfig} (hleaves : c.Leaves) :
    ∃ scope name index status, c.metadata.scope = some scope ∧ c.metadata.name = some name ∧
      c.finalizerIndex? = some index ∧ status.TellsStopped ∧
      (m.reconcile outside c w).2.written = w.written ++
        arriving (writing scope name status) ++ arriving (taking scope name index) := by
  obtain ⟨scope, name, index, hscope, hname, hindex, hleaving⟩ := hleaves.parts
  refine ⟨scope, name, index, Errand.lastStatus outside c w, hscope, hname, hindex,
    Errand.lastStatus_tellsStopped outside c w, ?_⟩
  rw [← statusPatch_eq hname, ← stepsPatch_removal]
  unfold Manager.reconcile Manager.dismiss
  simp only [hscope, hindex, hleaving, hname]
  exact (written_apply _ _ _).trans (congrArg (· ++ _) (written_apply w _ _))

/-! ## What arrives at the index -/

/-- Nothing is sent to the index, and its address stays. -/
structure Keeps (w' w : World) : Prop where
  posts : w'.posts = w.posts
  base : w'.base = w.base

theorem posts_note (a : Arrival) : (w.note (.post a)).posts = w.posts ++ [a] := by
  unfold posts
  rw [written_note, List.filterMap_append]
  rfl

theorem keeps_reply (method : String) (target : Target) : (w.reply method target).2.Keeps w := by
  unfold reply
  split <;> exact ⟨rfl, rfl⟩

theorem keeps_token : (token w).2.Keeps w := by
  unfold token
  split <;> exact ⟨rfl, rfl⟩

/-- Reading a secret sends nothing to the index. -/
theorem keeps_readToken (scope : String) (place : Cluster.SecretKey) :
    (Cluster.readToken cluster scope place w).2.Keeps w := by
  cases htarget : Target.ofText? (Sync.question scope place) with
  | error flaw =>
    rw [Sync.readToken_of_error htarget]
    exact ⟨rfl, rfl⟩
  | ok target =>
    rw [Sync.readToken_of_ok htarget]
    exact keeps_reply w "GET" target

/-- What arrives of a request that is sent with a token to an address. -/
def delivered (url : String) (r : Sync.Request) (token : Option String) : List Arrival :=
  match Sync.requestTarget? w.base url, token.all Sync.isSendable with
  | some target, true => [⟨token.map Sync.bearer, target, r⟩]
  | _, _ => []

theorem keeps_indexReply (target : String) : (w.indexReply target).2.Keeps w := by
  unfold indexReply
  split
  · exact keeps_reply w "POST" ⟨target, ""⟩
  · split <;> exact ⟨rfl, rfl⟩

/-- An attempt leaves what arrives of it. -/
theorem posts_attempt (url : String) (token : Option String) (r : Sync.Request) :
    (attempt url token r w).2.posts = w.posts ++ w.delivered url r token ∧
      (attempt url token r w).2.base = w.base := by
  unfold attempt delivered
  cases Sync.requestTarget? w.base url with
  | none => exact ⟨(List.append_nil _).symm, rfl⟩
  | some target =>
    cases token.all Sync.isSendable with
    | false => exact ⟨(List.append_nil _).symm, rfl⟩
    | true =>
      obtain ⟨hposts, hbase⟩ := keeps_indexReply
        (({ w with arrivals := w.arrivals + 1 } : World).note
          (.post ⟨token.map Sync.bearer, target, r⟩)) target
      exact ⟨hposts.trans (posts_note _ _), hbase⟩

variable {c : Sync.Client World} {w}

theorem pause_eq (retry : Nat) : (c.pause index retry w).2 = w := by
  unfold Sync.Client.pause
  dsimp only [index]
  split <;> rfl

theorem keeps_clientToken (hread : ∀ read, c.tokens = some read → ∀ w, (read w).2.Keeps w) :
    (c.token w).2.Keeps w := by
  unfold Sync.Client.token
  cases htokens : c.tokens with
  | none => exact ⟨rfl, rfl⟩
  | some read => exact hread read htokens w

theorem delivered_eq {w' : World} (h : w'.base = w.base) : w'.delivered = w.delivered := by
  unfold delivered
  rw [h]

/-- The request has arrived at most so often. -/
def Arrives (c : Sync.Client World) (r : Sync.Request) (w w' : World) (times : Nat) : Prop :=
  ∃ tokens : List (Option String), tokens.length ≤ times ∧
    w'.posts = w.posts ++ tokens.flatMap (w.delivered c.config.url r)

theorem arrives_of_keeps {w' : World} (h : w'.Keeps w) (r : Sync.Request) (times : Nat) :
    Arrives c r w w' times := ⟨[], Nat.zero_le _, h.posts.trans (List.append_nil _).symm⟩

/-- One turn, after which there are so many retries left. -/
theorem arrives_turn (hread : ∀ read, c.tokens = some read → ∀ w, (read w).2.Keeps w)
    {r : Sync.Request} {left : Nat}
    (hrest : left ≠ 0 → ∀ done w, Arrives c r w ((c.line index r).post (left - 1) done w).2 left)
    (done : Nat) (w : World) :
    Arrives c r w ((c.line index r).post left done w).2 (left + 1) := by
  cases hgo : (c.line index r).isCancelled w with
  | true =>
    rw [Sync.Line.post_of_isCancelled hgo]
    exact arrives_of_keeps ⟨rfl, rfl⟩ r _
  | false =>
    obtain ⟨⟨token, w₁⟩, htoken⟩ : ∃ answer, (c.line index r).token w = answer := ⟨_, rfl⟩
    have hkeeps : w₁.Keeps w := by
      have hkeeps := keeps_clientToken (w := w) hread
      rw [show c.token w = _ from htoken] at hkeeps
      exact hkeeps
    cases token with
    | error e =>
      rw [Sync.Line.post_of_refusal hgo htoken]
      exact arrives_of_keeps hkeeps r _
    | ok token =>
      obtain ⟨hposts, hbase⟩ := posts_attempt w₁ c.config.url token r
      rw [hkeeps.posts, delivered_eq hkeeps.base] at hposts
      rw [Sync.Line.post_of_token hgo htoken]
      have honce : Arrives c r w (attempt c.config.url token r w₁).2 (left + 1) :=
        ⟨[token], Nat.le_add_left 1 left, by rw [hposts, List.flatMap_singleton]⟩
      split
      · exact honce
      · rename_i hmore
        obtain ⟨-, hleft⟩ := not_or.mp hmore
        obtain ⟨⟨woken, w₂⟩, hpause⟩ : ∃ woken, (c.line index r).pause (done + 1)
            ((c.line index r).attempt token w₁).2 = woken := ⟨_, rfl⟩
        rw [hpause, show w₂ = _ from (congrArg Prod.snd hpause).symm.trans (pause_eq _)]
        cases woken with
        | true => exact honce
        | false =>
          obtain ⟨tokens, hlength, hrest⟩ :=
            hrest hleft (done + 1) (attempt c.config.url token r w₁).2
          refine ⟨token :: tokens, Nat.succ_le_succ hlength, hrest.trans ?_⟩
          rw [hposts, delivered_eq (hbase.trans hkeeps.base), List.flatMap_cons, List.append_assoc]

theorem arrives_post (hread : ∀ read, c.tokens = some read → ∀ w, (read w).2.Keeps w)
    (r : Sync.Request) (left done : Nat) (w : World) :
    Arrives c r w ((c.line index r).post left done w).2 (left + 1) := by
  induction left generalizing done w with
  | zero => exact arrives_turn hread (fun h => absurd rfl h) done w
  | succ left ih => exact arrives_turn hread (fun _ => ih) done w

/-- A call leaves its own request and no other, at most once for each attempt. -/
theorem posts_send (hread : ∀ read, c.tokens = some read → ∀ w, (read w).2.Keeps w)
    (r : Sync.Request) (w : World) :
    ∃ tokens : List (Option String), tokens.length ≤ c.config.maxRetries + 1 ∧
      (c.send index r w).2.posts = w.posts ++ tokens.flatMap (w.delivered c.config.url r) :=
  arrives_post hread r c.config.maxRetries 0 w

/-- So does a call of a feed, which reads its token from a secret of the cluster. -/
theorem posts_clientFor (opts : Control.Options) (scope : String) (settings : Control.Settings)
    (r : Sync.Request) (w : World) :
    ∃ tokens : List (Option String), tokens.length ≤ opts.maxRetries + 1 ∧
      ((Control.clientFor outside opts scope settings).send index r w).2.posts =
        w.posts ++ tokens.flatMap (w.delivered (Sync.normalizeEndpoint settings.endpoint) r) := by
  refine posts_send (c := Control.clientFor outside opts scope settings) (fun read hread w => ?_) r w
  obtain ⟨place, -, rfl⟩ := Option.map_eq_some_iff.mp hread
  exact keeps_readToken w scope place

end World

end ClusterFeed.Rehearsal
