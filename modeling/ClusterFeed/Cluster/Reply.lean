import ClusterFeed.Cluster.Target
import ClusterFeed.Json.Decode

/-!
# Requests to the cluster

A request is answered by a status and a body. With a status from 400 to 599 it has failed, and the
body may be a status object that says why. Otherwise the body must be readable as what was asked
for.

A request whose target cannot be sent fails before the cluster hears of it. The cluster itself is
known only through the operations of `Access`, on some state of its own.
-/

namespace ClusterFeed.Cluster

/-- The answer to a request. -/
structure Reply where
  /-- The status. -/
  status : Nat
  /-- The body. -/
  body : String
  deriving DecidableEq, Repr, Inhabited

/-- Why a request gave nothing. -/
inductive Failure where
  /-- The cluster refused it. -/
  | refused (message reason : String)
  /-- The answer is not of the expected form. -/
  | unreadable
  /-- The request cannot be made. -/
  | invalid (flaw : Target.Flaw)
  /-- What the cluster offers is not told in full. -/
  | undiscovered (cause : String)
  /-- There is no way to the cluster. -/
  | unreachable
  deriving DecidableEq, Repr, Inhabited

/-- The text of a failure. -/
def Failure.message : Failure → String
  | .refused message reason => "ApiError: " ++ message ++ ": " ++ reason
  | .unreadable => "Error deserializing response"
  | .invalid flaw => "Failed to build request: failed to build request: " ++ flaw.message
  | .undiscovered cause => "Error from discovery: " ++ cause
  | .unreachable => "Failed to infer configuration"

/-- Whether the cluster said that there is no such object. -/
def Failure.isNotFound : Failure → Bool
  | .refused _ reason => reason == "NotFound"
  | _ => false

/-- A status object. -/
structure StatusBody where
  /-- Success or failure. -/
  status : String
  /-- A text for readers. -/
  message : String
  /-- The reason in one word. -/
  reason : String
  /-- The code. -/
  code : Nat
  deriving DecidableEq, Repr, Inhabited

open Json.Decode in
/-- Reads a status object. -/
def StatusBody.decode : Json.Decoder StatusBody := fun t => do
  match ← Json.record? ["status", "message", "reason", "code"] t with
  | [status, message, reason, code] =>
    let code ← code.required nat64
    if code < 65536 then
      return ⟨← status.required text, ← message.orElse "" text, ← reason.orElse "" text, code⟩
    else none
  | _ => none

namespace Reply

/-- The answer for what does not exist. -/
def notFound : Reply :=
  ⟨404, "\x7b\"status\":\"Failure\",\"message\":\"not found\",\"reason\":\"NotFound\"," ++
    "\"code\":404\x7d"⟩

/-- Whether the request has failed. -/
def isFailure (r : Reply) : Bool := 400 ≤ r.status && r.status < 600

/-- Reads the answer as a value of a type. -/
def read? {α : Type} (d : Json.Decoder α) (r : Reply) : Except Failure α :=
  if r.isFailure then
    match StatusBody.decode.read? (Text.unitsOf r.body) with
    | some s => .error (.refused s.message s.reason)
    | none => .error (.refused r.body "Failed to parse error data")
  else
    match d.read? (Text.unitsOf r.body) with
    | some a => .ok a
    | none => .error .unreadable

end Reply

/-- A request that changes an object. -/
structure Patch where
  /-- The path of the object. -/
  path : String
  /-- The form of the change. -/
  contentType : String
  /-- The change. -/
  body : Json
  deriving Inhabited

/-- How the cluster is reached. -/
structure Access (σ : Type) where
  /-- Asks for what is at a target. -/
  get : Target → σ → Reply × σ
  /-- Changes an object. -/
  patch : Patch → σ → Reply × σ
  /-- Opens a watch of what is at a path; whether it is open. -/
  watch : String → σ → Bool × σ

/-- A computation that asks the cluster and may fail. -/
abbrev Ask (σ α : Type) := σ → Except Failure α × σ

namespace Access

/-- Asks for what is at a target and reads it. -/
def fetch {σ α : Type} (c : Access σ) (target : String) (d : Json.Decoder α) : Ask σ α := fun s =>
  match Target.ofText? target with
  | .error flaw => (.error (.invalid flaw), s)
  | .ok t =>
    let (r, s) := c.get t s
    (r.read? d, s)

/-- Changes an object and reads the answer. -/
def apply {σ α : Type} (c : Access σ) (p : Patch) (d : Json.Decoder α) : Ask σ α := fun s =>
  match Target.ofText? p.path with
  | .error flaw => (.error (.invalid flaw), s)
  | .ok t =>
    let (r, s) := c.patch { p with path := t.path } s
    (r.read? d, s)

/-- Opens a watch; whether it is open. -/
def follow {σ : Type} (c : Access σ) (target : String) (s : σ) : Bool × σ :=
  match Target.ofText? target with
  | .error _ => (false, s)
  | .ok t => c.watch t.path s

end Access

end ClusterFeed.Cluster
