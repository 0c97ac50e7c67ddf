import ClusterFeed.Rehearsal.Routes
import ClusterFeed.Watch.Informer

/-!
# Rehearsed watches

An informer that follows a rehearsed cluster: the answers to its requests for lists and the lines of
its watches are written down beforehand. The informer goes on until nothing more can happen, which
is when it reads a watch that stays silent, or when it has ended.
-/

namespace ClusterFeed.Rehearsal

open Cluster (Reply Notice Page Manifest)
open Watch (Informer Callback)

/-- One watch. -/
structure Connection where
  /-- What its lines say. -/
  notices : List Notice
  /-- Whether it is closed after the last line. -/
  closes : Bool
  deriving Inhabited

/-- A watch that stays open and silent. -/
def Connection.silent : Connection := ⟨[], false⟩

/-- What an informer will meet. -/
structure Course where
  /-- The answers to requests for lists; the last one stays. -/
  lists : List Reply
  /-- The watch that is open. -/
  current : Connection
  /-- The watches after that; all further ones are silent. -/
  coming : List Connection
  deriving Inhabited

namespace Course

/-- Takes the answer to a request for a list. -/
def list (c : Course) : Option (Page Manifest) × Course :=
  match next? c.lists with
  | some (r, rest) => ((r.read? (Page.decode Manifest.decode)).toOption, { c with lists := rest })
  | none => (none, c)

/-- Opens the next watch. -/
def openWatch (c : Course) : Course :=
  match c.coming with
  | w :: rest => { c with current := w, coming := rest }
  | [] => { c with current := .silent }

/-- One step of an informer with its reports; none when nothing more can happen. -/
def step? (c : Course) (i : Informer) : Option (List Callback × Informer × Course) :=
  match i.phase with
  | .ended => none
  | .resting _ => some ([], i.onRested, c)
  | .opening => some ([], i.onOpened true, c.openWatch)
  | .listing _ =>
    let (page, c) := c.list
    let (cs, i) := i.onPage page
    some (cs, i, c)
  | .watching =>
    match c.current.notices with
    | n :: rest =>
      let (cs, i) := i.onNotice n
      some (cs, i, { c with current := { c.current with notices := rest } })
    | [] => if c.current.closes then some ([], i.onClosed, c) else none

/-- The steps of an informer, as many as are given at most, with its reports. -/
def run : Nat → Course → Informer → List Callback × Informer × Course
  | 0, c, i => ([], i, c)
  | fuel + 1, c, i =>
    match c.step? i with
    | none => ([], i, c)
    | some (cs, i, c) =>
      let (rest, i, c) := run fuel c i
      (cs ++ rest, i, c)

/-- How many steps bring something new: each line, each answer to a request for a list and each
opening may be followed by a rest and a new list. -/
def stepsLeft (c : Course) : Nat :=
  let connections := c.current :: c.coming
  let lines := connections.foldl (fun n w => n + w.notices.length + 1) 0
  (lines + c.lists.length + 1) * 2 * (c.lists.length + 3)

end Course

end ClusterFeed.Rehearsal
