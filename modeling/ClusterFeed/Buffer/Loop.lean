import ClusterFeed.Buffer.Basic
import ClusterFeed.Buffer.Intake

/-!
# The flush loop

One loop moves changes from the intake queue into the buffer and sends the buffer's changes once in
every window. At each turn it looks first whether it has been stopped, then whether a sending is
due, and only then at the queue, so that a busy queue cannot hold up the sendings.

A sending that begins a little late does not move the ones after it; one that begins much later than
it was due does. While a batch is on its way the loop does nothing else. The loop ends when it is
stopped, or when the queue is closed and empty; in both cases the waiting changes stay where they
are.

This is `run` of the buffer: `turn?` is one choice among its branches, in their order, and `answer`
is what is left of a `flush` once its request has been answered.
-/

namespace ClusterFeed

open Sync (SyncError)

/-- What the loop is doing. -/
inductive LoopPhase where
  /-- It waits for something to happen. -/
  | waiting
  /-- A batch is on its way. -/
  | sending (batch : Pending)
  /-- It has ended. -/
  | ended
  deriving Inhabited

/-- The state of the loop. Times are in nanoseconds. -/
structure FlushLoop where
  /-- The buffer. -/
  buffer : Buffer
  /-- The queue that it reads. -/
  intake : Intake
  /-- Whether it has been told to stop. -/
  cancelled : Bool
  /-- The time. -/
  now : Nat
  /-- When the next sending is due. -/
  deadline : Nat
  /-- What it is doing. -/
  phase : LoopPhase
  deriving Inhabited

namespace FlushLoop

/-- How late a sending may begin without moving the ones after it. -/
def slack : Nat := 5000000

/-- When the sending after the present one is due. -/
def nextDeadline (window deadline now : Nat) : Nat :=
  if now ≤ deadline + slack then deadline + window else now + window

/-- The loop when it begins: the first sending is due after one window. -/
def start (buffer : Buffer) (intake : Intake) (now : Nat) : FlushLoop :=
  ⟨buffer, intake, false, now, now + buffer.window.nanos, .waiting⟩

/-- Begins the sending that is due. -/
def tick (l : FlushLoop) : FlushLoop :=
  let l := { l with deadline := nextDeadline l.buffer.window.nanos l.deadline l.now }
  match l.buffer.startFlush with
  | (.done _, b) => { l with buffer := b }
  | (.inFlight batch, b) => { l with buffer := b, phase := .sending batch }

/-- One turn of the loop; none when there is nothing to do. -/
def turn? (l : FlushLoop) : Option FlushLoop :=
  match l.phase with
  | .ended => none
  | .sending _ => none
  | .waiting =>
    if l.cancelled then some { l with phase := .ended }
    else if l.deadline ≤ l.now then some l.tick
    else match l.intake.items with
      | c :: cs =>
        some { l with buffer := l.buffer.record c, intake := { l.intake with items := cs } }
      | [] => if l.intake.isOpen then none else some { l with phase := .ended }

/-- The answer to the batch that is on its way. -/
def answer (l : FlushLoop) (outcome : Except SyncError Sync.Response) : FlushLoop :=
  match l.phase with
  | .sending batch =>
    { l with buffer := (l.buffer.endFlush batch outcome).2, phase := .waiting }
  | _ => l

/-- Whether the loop has ended. -/
def isEnded (l : FlushLoop) : Bool :=
  match l.phase with
  | .ended => true
  | _ => false

/-- Offers changes to the queue; the number of those refused comes first. An ended loop reads
nothing more. -/
def offerAll (l : FlushLoop) (cs : List Change) : Nat × FlushLoop :=
  if l.isEnded then (cs.length, l)
  else
    let (n, q) := l.intake.offerAll cs
    (n, { l with intake := q })

/-- Time passes while the loop waits. -/
def advance (l : FlushLoop) (nanos : Nat) : FlushLoop := { l with now := l.now + nanos }

/-- How many turns and answers it takes at most until the loop waits: each turn reads a change,
begins a sending or ends the loop, and each sending that is due moves the next one by a window. -/
def turnsLeft (l : FlushLoop) : Nat :=
  2 * (l.intake.items.length + (l.now - l.deadline) + 2)

/-- Runs the loop until it waits; batches are answered at once by `send`, on a state of its own. The
changes `during` come in while the first batch is on its way. -/
def settle {σ : Type} (send : Sync.Request → σ → Except SyncError Sync.Response × σ)
    (during : List Change) : Nat → FlushLoop → σ → FlushLoop × σ
  | 0, l, s => (l, s)
  | fuel + 1, l, s =>
    match l.phase with
    | .sending batch =>
      let l := { l with buffer := l.buffer.recordAll during }
      let (outcome, s) := send (Buffer.batchRequest batch) s
      settle send [] fuel (l.answer outcome) s
    | _ =>
      match l.turn? with
      | some l => settle send during fuel l s
      | none => (l, s)

/-- Runs the loop until it waits. -/
def run {σ : Type} (send : Sync.Request → σ → Except SyncError Sync.Response × σ)
    (during : List Change) (l : FlushLoop) (s : σ) : FlushLoop × σ :=
  settle send during l.turnsLeft l s

end FlushLoop

end ClusterFeed
