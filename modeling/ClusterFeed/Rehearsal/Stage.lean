import ClusterFeed.CommandLine.Program
import ClusterFeed.Rehearsal.World

/-!
# Rehearsing the controller

The controller in a rehearsed world, driven by instructions: some are what the controller itself is
asked to do, others change the world or let time pass. After each instruction everything has
happened that can happen without time passing.
-/

namespace ClusterFeed.Rehearsal

open Control (Manager Outside SyncConfig Settings ControlError StartOutcome NextStep)
open Cluster (Notice)

/-- What is to happen next. -/
inductive Instruction where
  /-- The types to watch are given. -/
  | pin (types : List WatchedType)
  /-- The cluster has other routes. -/
  | reroute (routes : Routes)
  /-- The index has other answers. -/
  | answer (replies : List IndexReply)
  /-- A feed is to run. -/
  | ensure (key scope : String) (settings : Settings)
  /-- A feed is to stop. -/
  | stop (key : String)
  /-- A feed is to tell the index everything. -/
  | resync (key : String)
  /-- All feeds are to stop for good. -/
  | shutdown
  /-- A token is to be read. -/
  | probe (scope : String) (settings : Settings)
  /-- Time passes. -/
  | pass (nanos : Nat)
  /-- Time passes until a feed has told the index everything by itself; then it is to stop. -/
  | awaitResync (key : String)
  /-- The watches at a path read lines. -/
  | notify (path : String) (notices : List Notice)
  /-- A configuration is to be reconciled. -/
  | reconcile (c : SyncConfig)
  /-- A configuration could not be reconciled. -/
  | giveBack (c : SyncConfig)
  /-- The configurations are to be found. -/
  | findConfigs
  deriving Inhabited

/-- What came of an instruction. -/
inductive Response where
  /-- Nothing to tell. -/
  | nothing
  /-- A feed runs. -/
  | started (o : StartOutcome)
  /-- Whether there was a feed. -/
  | wasThere (b : Bool)
  /-- How many objects were told. -/
  | told (n : Nat)
  /-- There is a token, or none is needed. -/
  | usable
  /-- What is to be done next. -/
  | next (n : NextStep)
  /-- It failed. -/
  | failed (e : ControlError)
  /-- The controller does not run. -/
  | unable (cause : String)
  deriving Inhabited

/-- What a computation of the controller has come to. -/
def Response.ofExcept {α : Type} (f : α → Response) : Except ControlError α → Response
  | .ok a => f a
  | .error e => .failed e

/-- The controller in its world. -/
structure Stage where
  /-- The manager. -/
  manager : Manager
  /-- The world. -/
  world : World
  /-- The keys that were named so far. -/
  keys : TextMap Unit

namespace Stage

/-- Surroundings that are the world itself. -/
def outside : Outside World := World.outside

/-- The controller before it is asked to do anything. -/
def new (options : Control.Options) (world : World) : Stage := ⟨.new options, world, ∅⟩

/-- How often something wakes at most while time passes. -/
def maxWakes : Nat := 1000000

/-- Names a key. -/
def name (s : Stage) (key : String) : Stage := { s with keys := s.keys.insert key () }

/-- What happens; none when it never comes to an end. -/
def step? (s : Stage) : Instruction → Option (Response × Stage)
  | .pin types => some (.nothing, { s with manager := s.manager.pin types })
  | .reroute routes => some (.nothing, { s with world := { s.world with routes } })
  | .answer replies => some (.nothing, { s with world := { s.world with replies } })
  | .ensure key scope settings =>
    let ((r, manager), world) := s.manager.ensure outside key scope settings s.world
    some (.ofExcept .started r, { s.name key with manager, world })
  | .stop key =>
    let (b, manager) := s.manager.stop key
    some (.wasThere b, { s.name key with manager })
  | .resync key =>
    let ((r, manager), world) := s.manager.resync outside key s.world
    some (.ofExcept .told r, { s.name key with manager, world })
  | .shutdown =>
    (s.manager.shutdown? outside s.world).map fun (manager, world) =>
      (.nothing, { s with manager, world })
  | .probe scope settings =>
    let (r, world) := Manager.probe outside scope settings s.world
    some (.ofExcept (fun _ => .usable) r, { s with world })
  | .pass nanos =>
    let until_ := s.manager.clock + nanos
    let (manager, world) := Manager.passTime outside until_ maxWakes s.manager s.world
    some (.nothing, { s with manager, world })
  | .awaitResync key =>
    let (n, manager, world) := Manager.awaitResync? outside key maxWakes s.manager s.world
    n.map fun n => (.told n, { s.name key with manager := (manager.stop key).2, world })
  | .notify path notices =>
    let (manager, world) := Manager.notify outside path notices s.manager s.world
    some (.nothing, { s with manager, world })
  | .reconcile c =>
    let ((r, manager), world) := s.manager.reconcile outside c s.world
    some (.ofExcept .next r, { s.name c.key with manager, world })
  | .giveBack c => some (.next .afterError, s.name c.key)
  | .findConfigs =>
    match CommandLine.findConfigs outside s.world with
    | (.error cause, world) => some (.unable cause, { s with world })
    | (.ok _, world) => some (.nothing, { s with world })

end Stage

end ClusterFeed.Rehearsal
