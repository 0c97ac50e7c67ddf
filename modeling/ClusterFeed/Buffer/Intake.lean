import ClusterFeed.Resource.Change

/-!
# The intake queue

Changes pass from the informers to the buffer through a queue of limited length. Offering a change
never waits: a full or closed queue refuses it. What is in the queue when it is closed can still be
taken out.

`offer?` is `try_send`, which `enqueue` calls; `run` takes out with `recv`.
-/

namespace ClusterFeed

/-- A queue of changes. -/
structure Intake where
  /-- How many changes it holds at most. -/
  capacity : Nat
  /-- The changes in it, the oldest first. -/
  items : List Change
  /-- Whether it takes changes. -/
  isOpen : Bool
  deriving Inhabited

namespace Intake

/-- An empty queue. -/
def new (capacity : Nat) : Intake := ⟨capacity, [], true⟩

/-- Offers a change; none when it is refused. -/
def offer? (q : Intake) (c : Change) : Option Intake :=
  if q.isOpen && q.items.length < q.capacity then some { q with items := q.items ++ [c] } else none

/-- Offers changes one after the other; the number of those refused comes first. -/
def offerAll (q : Intake) (cs : List Change) : Nat × Intake :=
  cs.foldl (fun (n, q) c => match q.offer? c with
    | some q => (n, q)
    | none => (n + 1, q)) (0, q)

/-- Takes no more changes. -/
def close (q : Intake) : Intake := { q with isOpen := false }

/-- Takes out all changes. -/
def drain (q : Intake) : List Change × Intake := (q.items, { q with items := [] })

end Intake

end ClusterFeed
