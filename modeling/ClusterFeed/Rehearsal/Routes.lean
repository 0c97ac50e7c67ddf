import ClusterFeed.Cluster.Reply

/-!
# Rehearsed answers

A rehearsed cluster or index answers from lists of answers: each request takes the next one of its
list, and the last one stays.
-/

namespace ClusterFeed.Rehearsal

open Cluster (Reply)

/-- The next of several answers and those after it; the last one stays. -/
def next? {α : Type} : List α → Option (α × List α)
  | [] => none
  | [a] => some (a, [a])
  | a :: rest => some (a, rest)

/-- Answers by the names of their routes. -/
abbrev Routes := TextMap (List Reply)

/-- The answer on a route, if there is one. -/
def Routes.take? (r : Routes) (route : String) : Option (Reply × Routes) :=
  (r[route]?.bind next?).map fun a => (a.1, r.insert route a.2)

end ClusterFeed.Rehearsal
