import ClusterFeed.Control.Config
import ClusterFeed.Control.Outside
import ClusterFeed.Rehearsal.Routes

/-!
# A rehearsed world

Surroundings of the controller that are known in full: what the cluster and the index will answer is
written down beforehand, and what is sent to them is written down as it comes. Watches stay open,
the clock stands still, and nothing waits.
-/

namespace ClusterFeed.Rehearsal

open Cluster (Reply Patch Failure Target)
open Sync (SyncError CredentialError)
open Control (Outside SyncConfig)
open Time (Instant)

/-- What a rehearsed index does with a request. -/
inductive IndexReply where
  /-- It answers with a status and a body. -/
  | answer (status : Nat) (body : List UInt8)
  /-- It answers with a status, and the connection is lost in the body. -/
  | brokenOff (status : Nat)
  /-- The connection is lost before there is an answer. -/
  | lost
  deriving Inhabited

namespace IndexReply

/-- Whether answers with the status have no body. -/
def isBare (status : Nat) : Bool := status == 101 || status == 204 || status == 304

/-- Whether an answer with the status is one for good. Below 200 only a change of the way of talking
is; an answer of another kind there only announces one, and a status has three digits. -/
def isFinal (status : Nat) : Bool := status == 101 || (200 ≤ status && status ≤ 999)

/-- Why there is no answer. -/
def broken : SyncError := .http "connection closed before message completed"

/-- What the client makes of it. The loss of a connection in the body does not show when the answer
has none. -/
def outcome : IndexReply → Except SyncError Sync.Response
  | answer status body =>
    if isFinal status then Sync.classify status (if isBare status then [] else body)
    else .error broken
  | brokenOff status => if isBare status then Sync.classify status [] else .error broken
  | lost => .error broken

/-- An answer of the cluster's kind. -/
def ofReply (r : Reply) : IndexReply := .answer r.status (Text.octets r.body)

/-- The answer that accepts whatever was sent. -/
def accepting : IndexReply := .answer 200 (Text.octets "\x7b\"success\":true\x7d")

end IndexReply

/-- A request as it arrives at the index. -/
structure Arrival where
  /-- The header that authorises it. -/
  authorization : Option String
  /-- The target that it names. -/
  target : String
  /-- The request itself. -/
  request : Sync.Request
  deriving Inhabited

/-- Something that was sent to be kept. -/
inductive Write where
  /-- A change of an object in the cluster. -/
  | patch (p : Patch)
  /-- A request to the index. -/
  | post (a : Arrival)
  deriving Inhabited

/-- How a rehearsed world answers. -/
structure Manners where
  /-- The name of the route for a method and a path. -/
  route : String → String → String
  /-- The answer of the cluster for a method and a target where there is no route. -/
  unrouted : String → Target → Reply
  /-- Whether the index answers by the routes of the cluster. -/
  sharesRoutes : Bool

namespace Manners

/-- The routes are told apart by method and path, and there is nothing where there is no route. -/
def strict : Manners :=
  ⟨fun method path => method ++ " " ++ path, fun _ _ => .notFound, false⟩

/-- A list without objects. -/
def emptyList : Reply :=
  ⟨200, "\x7b\"apiVersion\":\"v1\",\"kind\":\"List\",\"items\":[]," ++
    "\"metadata\":\x7b\"resourceVersion\":\"1\"\x7d\x7d"⟩

/-- A configuration without anything in it. -/
def blankConfig : Reply :=
  ⟨200, "\x7b\"apiVersion\":\"mcpsync.dev/v1alpha1\",\"kind\":\"ResourceSyncConfig\"," ++
    "\"metadata\":\x7b\x7d,\"spec\":\x7b\"endpoint\":\"\"\x7d\x7d"⟩

/-- Where there is no route, pages of lists are empty and changes succeed. -/
def lenient : Manners :=
  { strict with unrouted := fun method target =>
      if method == "PATCH" then blankConfig
      else if target.query == Cluster.pageQuery then emptyList
      else .notFound }

/-- The routes are told by path alone and serve the index as well. -/
def byPath : Manners := ⟨fun _ path => path, fun _ _ => .notFound, true⟩

end Manners

/-- A rehearsed world. -/
structure World where
  /-- How it answers. -/
  manners : Manners
  /-- Whether there is a way to the cluster. -/
  isReachable : Bool
  /-- The time. -/
  now : Instant
  /-- The answers of the cluster. -/
  routes : Routes
  /-- The address of the index. -/
  base : String
  /-- The next answers of the index. -/
  replies : List IndexReply
  /-- What the index answers after that. -/
  fallback : IndexReply
  /-- At which request to the index, counted from one, the feed is stopped. -/
  stopsAt : Option Nat
  /-- How many requests have arrived at the index. -/
  arrivals : Nat
  /-- The tokens that can be had; the last one stays. -/
  tokens : List (Except CredentialError String)
  /-- What was sent, last first. -/
  writes : List Write

namespace World

/-- A world without routes, whose index accepts everything. -/
def new (manners : Manners) (now : Instant) (base : String) : World where
  manners := manners
  isReachable := true
  now := now
  routes := ∅
  base := base
  replies := []
  fallback := .accepting
  stopsAt := none
  arrivals := 0
  tokens := []
  writes := []

/-- Takes an answer of the cluster. -/
def reply (method : String) (target : Target) (w : World) : Reply × World :=
  match w.routes.take? (w.manners.route method target.path) with
  | some (r, routes) => (r, { w with routes })
  | none => (w.manners.unrouted method target, w)

/-- Notes what was sent. -/
def note (w : World) (x : Write) : World := { w with writes := x :: w.writes }

/-- What was sent, in order. -/
def written (w : World) : List Write := w.writes.reverse

/-- The requests that arrived at the index, in order. -/
def posts (w : World) : List Arrival :=
  w.written.filterMap fun x => match x with
    | .post a => some a
    | .patch _ => none

/-- The changes of objects in the cluster, in order. -/
def patches (w : World) : List Patch :=
  w.written.filterMap fun x => match x with
    | .patch p => some p
    | .post _ => none

/-- Forgets what was sent so far. -/
def forget (w : World) : World := { w with writes := [] }

/-- The cluster. -/
def cluster : Cluster.Access World where
  get := reply "GET"
  patch p w := (w.note (.patch p)).reply "PATCH" ⟨p.path, ""⟩
  watch _ w := (true, w)

/-- Takes an answer of the index. -/
def indexReply (target : String) (w : World) : IndexReply × World :=
  if w.manners.sharesRoutes then
    let (r, w) := w.reply "POST" ⟨target, ""⟩
    (.ofReply r, w)
  else match w.replies with
    | r :: rest => (r, { w with replies := rest })
    | [] => (w.fallback, w)

/-- Whether the feed has been stopped. -/
def isStopped (w : World) : Bool := w.stopsAt.any (· ≤ w.arrivals)

/-- One request to the index. It arrives only if the address is one of the index and the token can
be sent. -/
def attempt (url : String) (token : Option String) (r : Sync.Request) (w : World) :
    Except SyncError Sync.Response × World :=
  match Sync.requestTarget? w.base url, token.all Sync.isSendable with
  | some target, true =>
    let arrival : Arrival := ⟨token.map Sync.bearer, target, r⟩
    let w := { w with arrivals := w.arrivals + 1 }.note (.post arrival)
    let (answer, w) := w.indexReply target
    (answer.outcome, w)
  | _, _ => (.error (.http "builder error"), w)

/-- The index. Waits are over at once, so that nothing shows of their random factors. -/
def index : Sync.IndexAccess World where
  isCancelled := isStopped
  attempt := attempt
  factor w := (Double.ofNat 1, w)
  pause _ w := (w.isStopped, w)

/-- Takes a token. -/
def token (w : World) : Except CredentialError String × World :=
  match next? w.tokens with
  | some (t, rest) => (t, { w with tokens := rest })
  | none => (.error (.backend "no token"), w)

/-- Everything that surrounds the controller. -/
def outside : Outside World where
  cluster := cluster
  index := index
  connect w := (if w.isReachable then .ok () else .error .unreachable, w)
  prepare _ w := (.ok (), w)
  now := now

end World

end ClusterFeed.Rehearsal
