import ClusterFeed.Sync.Error
import ClusterFeed.Sync.Endpoint
import ClusterFeed.Sync.Backoff

/-!
# Sending requests

A request is sent until the index answers it for good, but only so many times. Before each attempt
the feed may have been stopped, and a token is read anew; after an attempt that may be repeated the
client waits, and stopping the feed ends the wait.

The surroundings of the client are a record of four operations on some state, so that the law of
retries holds for every index, every secret and every moment at which the feed is stopped.

`Line.post` is the loop of `post`, and `classify` what `attempt` makes of an answer.
-/

namespace ClusterFeed.Sync

open Time (Duration)

/-- Octets of an answer's body that go into an error at most. -/
def maxErrorBody : Nat := 512

/-- What an answer means. Refused items count before the status, and the status before the body. -/
def classify (status : Nat) (body : List UInt8) : Except SyncError Response :=
  let us := Text.units body
  let answer := Json.Decoder.read? Response.decode us
  match answer with
  | some r =>
    if r.isPartial then .error (.partialFailure r)
    else if status < 200 ∨ 300 ≤ status then
      .error (.status status (Text.truncate maxErrorBody (Text.lenient us)))
    else if r.success then .ok r
    else .error (.rejected ((r.error.map (·.code)).getD "") ((r.error.map (·.message)).getD ""))
  | none =>
    if status < 200 ∨ 300 ≤ status then
      .error (.status status (Text.truncate maxErrorBody (Text.lenient us)))
    else .error (.unreadable "")

/-- What surrounds a client. -/
structure Line (σ : Type) where
  /-- Whether the feed has been stopped. -/
  isCancelled : σ → Bool
  /-- Reads the token, if requests carry one. -/
  token : σ → Except CredentialError (Option String) × σ
  /-- Sends the request once. -/
  attempt : Option String → σ → Except SyncError Response × σ
  /-- Waits before the retry of the given number; true when the feed was stopped meanwhile. -/
  pause : Nat → σ → Bool × σ

/-- Sends a request with at most `left` retries, after `done` retries. -/
def Line.post {σ : Type} (line : Line σ) (left done : Nat) (s : σ) :
    Except SyncError Response × σ :=
  if line.isCancelled s then (.error .cancelled, s)
  else
    match line.token s with
    | (.error e, s) => (.error (.credential e), s)
    | (.ok token, s) =>
      match line.attempt token s with
      | (.ok r, s) => (.ok r, s)
      | (.error e, s) =>
        if !e.isRetryable then (.error e, s)
        else match left with
          | 0 => (.error e, s)
          | left + 1 =>
            match line.pause (done + 1) s with
            | (true, s) => (.error .cancelled, s)
            | (false, s) => line.post left (done + 1) s

/-- How a client is set up. -/
structure ClientConfig where
  /-- The configured endpoint. -/
  endpoint : String
  /-- How often a request is sent again. -/
  maxRetries : Nat
  /-- The waits before a request is sent again. -/
  backoff : Backoff
  /-- How long an answer may take. -/
  requestTimeout : Duration
  deriving DecidableEq, Repr, Inhabited

namespace ClientConfig

/-- The usual set-up. -/
def new (endpoint : String) : ClientConfig :=
  ⟨endpoint, 3, ⟨.ofSeconds 1, .ofSeconds 30⟩, .ofSeconds 30⟩

/-- The address to which requests go. -/
def url (c : ClientConfig) : String := normalizeEndpoint c.endpoint

end ClientConfig

/-- How the index is reached. -/
structure IndexAccess (σ : Type) where
  /-- Whether the feed has been stopped. -/
  isCancelled : σ → Bool
  /-- Sends a request to an address once, with a token or without. -/
  attempt : String → Option String → Request → σ → Except SyncError Response × σ
  /-- Draws the random factor of a wait. -/
  factor : σ → Double × σ
  /-- Waits so long; true when the feed was stopped meanwhile. -/
  pause : Duration → σ → Bool × σ

/-- A client of the index. -/
structure Client (σ : Type) where
  /-- How it is set up. -/
  config : ClientConfig
  /-- Where it has the token from, if it needs one. -/
  tokens : Option (σ → Except CredentialError String × σ)

namespace Client

/-- Reads the token, if there is one to read. -/
def token {σ : Type} (c : Client σ) (s : σ) : Except CredentialError (Option String) × σ :=
  match c.tokens with
  | none => (.ok none, s)
  | some read =>
    let (t, s) := read s
    (t.map some, s)

/-- Waits before the retry of the given number, as long as the schedule says; true when the feed was
stopped meanwhile. -/
def pause {σ : Type} (c : Client σ) (index : IndexAccess σ) (retry : Nat) (s : σ) : Bool × σ :=
  let (factor, s) := index.factor s
  match c.config.backoff.delay? retry factor with
  | some d => index.pause d s
  -- A wait that does not fit a duration cannot be begun, and nothing comes after it.
  | none => (true, s)

/-- What surrounds the sending of a request. -/
def line {σ : Type} (c : Client σ) (index : IndexAccess σ) (r : Request) : Line σ where
  isCancelled := index.isCancelled
  token := c.token
  attempt t := index.attempt c.config.url t r
  pause := c.pause index

/-- Sends a request until it is answered for good. -/
def send {σ : Type} (c : Client σ) (index : IndexAccess σ) (r : Request) (s : σ) :
    Except SyncError Response × σ :=
  (c.line index r).post c.config.maxRetries 0 s

end Client

end ClusterFeed.Sync
