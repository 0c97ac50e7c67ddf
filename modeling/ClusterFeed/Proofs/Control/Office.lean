import ClusterFeed.Control.Manager
import ClusterFeed.Proofs.Control.Serving
import ClusterFeed.Proofs.Runs

/-!
# The manager at work

The manager is asked to have feeds run, to stop them, to resync them and to stop them all, and works
on all of this at once. Its table and its registry are changed one after the other, and between two
changes anything can happen under other keys; only under one key there is never more than one thing
to do at a time. Meanwhile each feed that was ever started has a task of its own that resyncs it now
and then, and notes in the registry what it told.

An office is a manager together with the work that it has begun and the feeds that it ever started.

The calls are `ensure_running`, `stop`, `resync` and `shutdown`, cut into pieces where they wait,
and the task of a feed is `resync_loop`.
-/

namespace ClusterFeed.Control

open Cluster (Failure)
open Sync (SyncError)
open Time (Instant)

/-- What the task that resyncs a feed is doing. -/
inductive ResyncTask where
  /-- It waits for the next resync to be due. -/
  | resting
  /-- It tells the index these objects. -/
  | telling (told : List Snapshot)
  /-- It has ended. -/
  | ended
  deriving DecidableEq

/-- A feed that was started, with its task. -/
structure Tenure where
  /-- The key that it was started under. -/
  key : String
  /-- The feed. -/
  feed : Feed
  /-- The task that resyncs it. -/
  task : ResyncTask

/-- What a feed is to be like. -/
structure Order where
  /-- The namespace of its configuration. -/
  scope : String
  /-- Its settings. -/
  settings : Settings

/-- What the types to watch are found out for. -/
inductive Aim where
  /-- To see whether a feed may go on as it was when the work began. -/
  | compare (f : Feed)
  /-- To start a feed. -/
  | launch (outcome : StartOutcome)

/-- How far the manager is with what it has to do under a key. A feed that is not in the table any
more, or not yet, is in hand; it is named by its number. -/
inductive Work where
  /-- The cluster is to be reached; what ran when the work began. -/
  | reaching (order : Order) (known : Option Feed)
  /-- The types to watch are to be found out. -/
  | seeking (order : Order) (aim : Aim)
  /-- The cluster is asked for its types. -/
  | discovering (order : Order) (aim : Aim)
  /-- What runs is to be taken out of the table; the types if they are known. -/
  | taking (order : Order) (found : Option (Except ControlError (List WatchedType)))
  /-- A feed that is to be replaced is taken down. -/
  | clearing (order : Order) (found : Option (Except ControlError (List WatchedType)))
      (number : Nat)
  /-- A client is to be built and a feed to be started. -/
  | starting (order : Order) (outcome : StartOutcome) (types : List WatchedType)
  /-- A feed that was started is to be put into the table. -/
  | installing (outcome : StartOutcome) (number : Nat)
  /-- It is to be entered into the registry. -/
  | entering (outcome : StartOutcome) (number : Nat)
  /-- A feed is taken down because it is to stop; whether there was one when the work began. -/
  | stopping (ran : Bool) (number : Nat)
  /-- The index is told these objects. -/
  | telling (number : Nat) (told : List Snapshot)
  /-- A feed is taken down together with all others. -/
  | closing (number : Nat)
  /-- It has been taken down, but not yet all others. -/
  | closed

/-- What came of something that the manager had to do. -/
inductive Answer where
  /-- Of having a feed run. -/
  | ensured (key : String) (result : Except ControlError StartOutcome)
  /-- Of stopping one: whether there was one when the work began, and what the answer was. -/
  | stopped (key : String) (ran answer : Bool)
  /-- Of a resync. -/
  | told (key : String) (result : Except ControlError Nat)

/-- A manager at work. -/
structure Office where
  /-- The types to watch, if they are given. -/
  pinned : Option (List WatchedType)
  /-- The registry. -/
  registry : Registry
  /-- The table: the numbers of the feeds that run. -/
  table : TextMap Nat
  /-- All feeds there have ever been; the number of one is its place here. -/
  tenures : List Tenure
  /-- The work that was begun. -/
  work : TextMap Work
  /-- The keys of each stop of everything that has been begun. -/
  shutdowns : List (List String)
  /-- The resyncs that the index accepted: the number of the feed, and the objects. -/
  accepted : List (Nat × List Snapshot)
  /-- What has been answered. -/
  answers : List Answer

namespace Office

/-- What happens in an office. -/
inductive Event where
  /-- The types to watch are given. -/
  | pin (types : List WatchedType)
  /-- A feed is to run. -/
  | ensure (key : String) (order : Order)
  /-- The cluster has been reached, or not. -/
  | reached (key : String) (answer : Except Failure Unit)
  /-- It is looked up whether the types are given. -/
  | consulted (key : String)
  /-- The cluster has told its types, or not. -/
  | discovered (key : String) (answer : Except ControlError (List WatchedType))
  /-- What runs is taken out of the table. -/
  | taken (key : String)
  /-- What was taken out has been taken down, and is taken out of the registry. -/
  | cleared (key : String)
  /-- A feed has been started, or there is no client for it. -/
  | launched (key : String) (made : Except SyncError Feed)
  /-- It is put into the table. -/
  | seated (key : String)
  /-- It is entered into the registry. -/
  | entered (key : String)
  /-- A feed is to stop. -/
  | stop (key : String)
  /-- A feed is to tell the index everything. -/
  | resync (key : String) (now : Instant)
  /-- The index has answered. -/
  | replied (key : String) (answer : Except SyncError Sync.Response) (now : Instant)
  /-- All feeds are to stop. -/
  | shutdown
  /-- All feeds under some keys have stopped. -/
  | shutdownEnds (keys : List String)
  /-- A feed goes on: its informers hear something, or its flush loop does something. -/
  | goesOn (number : Nat) (f : Feed)
  /-- A resync of a feed is due. -/
  | due (number : Nat) (now : Instant)
  /-- The index has answered to a resync that was due. -/
  | told (number : Nat) (answer : Except SyncError Sync.Response) (now : Instant)
  /-- The task that resyncs a feed ends. -/
  | ends (number : Nat)

/-- An office where nothing was ever started. -/
def new : Office := ⟨none, ∅, ∅, [], ∅, [], [], []⟩

/-- The feed under a key. -/
def feed? (w : Office) (key : String) : Option Feed :=
  (w.table[key]?).bind fun n => (w.tenures[n]?).map (·.feed)

/-- The feeds by their keys. -/
def feeds (w : Office) : TextMap Feed :=
  w.table.filterMap fun _ n => (w.tenures[n]?).map (·.feed)

/-- Whether the task of a feed has ended. -/
def isOver (w : Office) (number : Nat) : Bool :=
  (w.tenures[number]?).elim false fun t => t.task = .ended

/-- The work under a key has come so far. -/
def proceed (w : Office) (key : String) (stage : Work) : Office :=
  { w with work := w.work.insert key stage }

/-- The work under a key is done. -/
def finish (w : Office) (key : String) (answer : Answer) : Office :=
  { w with work := w.work.erase key, answers := w.answers ++ [answer] }

/-- Takes what is under a key out of the registry. -/
def strike (w : Office) (key : String) : Office :=
  { w with registry := (w.registry.stop key).2 }

/-- Takes what is under a key out of the table. -/
def unseat (w : Office) (key : String) : Office := { w with table := w.table.erase key }

/-- Puts a feed into the table. -/
def seat (w : Office) (key : String) (number : Nat) : Office :=
  { w with table := w.table.insert key number }

/-- Enters a feed into the registry. -/
def enter (w : Office) (key : String) (f : Feed) : Office :=
  { w with registry := w.registry.start key f.informers.size }

/-- A feed has been started under a key. -/
def appoint (w : Office) (key : String) (f : Feed) : Office :=
  { w with tenures := w.tenures ++ [⟨key, f, .resting⟩] }

/-- A feed has the task that is given. -/
def setTask (w : Office) (number : Nat) (t : Tenure) (task : ResyncTask) : Office :=
  { w with tenures := w.tenures.set number { t with task } }

/-- The index has accepted a resync, which is noted in the registry. -/
def note (w : Office) (key : String) (number : Nat) (told : List Snapshot) (now : Instant) :
    Office :=
  { w with
    registry := w.registry.recordResync key told.length now
    accepted := w.accepted ++ [(number, told)] }

/-- Goes on once the types have been found out. -/
def onFound (w : Office) (key : String) (order : Order) (aim : Aim)
    (found : Except ControlError (List WatchedType)) : Office :=
  match aim with
  | .compare f =>
    if Manager.mayGoOn f found then w.finish key (.ensured key (.ok .unchanged))
    else w.proceed key (.taking order (some found))
  | .launch outcome =>
    match found with
    | .error e => w.finish key (.ensured key (.error e))
    | .ok types => w.proceed key (.starting order outcome types)

/-- Goes on once the place under a key is free. -/
def onFree (w : Office) (key : String) (order : Order) (outcome : StartOutcome)
    (found : Option (Except ControlError (List WatchedType))) : Office :=
  match found with
  | none => w.proceed key (.seeking order (.launch outcome))
  | some found => w.onFound key order (.launch outcome) found

/-- Goes on once the cluster has been reached, or not. -/
def onReached (w : Office) (key : String) (order : Order) (known : Option Feed)
    (answer : Except Failure Unit) : Office :=
  match answer, known with
  | .error e, _ => w.finish key (.ensured key (.error (.kube e)))
  | .ok _, none => w.proceed key (.taking order none)
  | .ok _, some f =>
    if f.settings = order.settings then w.proceed key (.seeking order (.compare f))
    else w.proceed key (.taking order none)

/-- Goes on once a feed has been started, or there is no client for it. None when the feed is not
what it is to be. -/
def onLaunched? (w : Office) (key : String) (order : Order) (outcome : StartOutcome)
    (types : List WatchedType) (made : Except SyncError Feed) : Option Office :=
  match made with
  | .error e => some (w.finish key (.ensured key (.error (.sync e))))
  | .ok f =>
    if f.Serves order.scope order.settings types then
      some ((w.appoint key f).proceed key (.installing outcome w.tenures.length))
    else none

/-- Begins to stop the feed under a key. -/
def onStop (w : Office) (key : String) : Office :=
  let ran := w.table.contains key
  match w.table[key]? with
  | none => w.finish key (.stopped key ran false)
  | some n => (w.unseat key).proceed key (.stopping ran n)

/-- Begins to tell the index everything about the feed under a key. -/
def onResync (w : Office) (key : String) (now : Instant) : Office :=
  match w.table[key]?, w.feed? key with
  | some n, some f =>
    if f.notesResync then w.proceed key (.telling n (ResyncSource.collect now f.sources))
    else w.finish key (.told key (.ok 0))
  | _, _ => w.finish key (.told key (.ok 0))

/-- Goes on once the index has answered. -/
def onReplied (w : Office) (key : String) (number : Nat) (told : List Snapshot)
    (answer : Except SyncError Sync.Response) (now : Instant) : Office :=
  match answer with
  | .error e => w.finish key (.told key (.error (.sync e)))
  | .ok _ => (w.note key number told now).finish key (.told key (.ok told.length))

/-- Goes on once what was taken out of the table has been taken down. None when nothing was. -/
def onCleared? (w : Office) (key : String) : Work → Option Office
  | .clearing order found n =>
    if w.isOver n then some ((w.strike key).onFree key order .restarted found) else none
  | .stopping ran n =>
    if w.isOver n then some ((w.strike key).finish key (.stopped key ran true)) else none
  | .closing n => if w.isOver n then some ((w.strike key).proceed key .closed) else none
  | _ => none

/-- Takes everything out of the table, to take it down. -/
def onShutdown (w : Office) : Office :=
  { w with
    table := ∅
    work := w.table.toList.foldl (fun work e => work.insert e.1 (.closing e.2)) w.work
    shutdowns := w.shutdowns ++ [w.table.keys] }

/-- Whether what was under a key has been taken down together with all others. -/
def isClosed (w : Office) (key : String) : Bool :=
  match w.work[key]? with
  | some .closed => true
  | _ => false

/-- What the task of a feed does when the index has answered. -/
def onTold (w : Office) (number : Nat) (t : Tenure) (told : List Snapshot)
    (answer : Except SyncError Sync.Response) (now : Instant) : Office :=
  match answer with
  | .ok _ => (w.note t.key number told now).setTask number t .resting
  | .error .cancelled => w.setTask number t .ended
  | .error _ => w.setTask number t .resting

/-- One event; none when it cannot happen now: something new is begun only under a key where nothing
is being done. -/
def step? (w : Office) : Event → Option Office
  | .pin types => some { w with pinned := some types }
  | .ensure key order =>
    if key ∈ w.work then none else some (w.proceed key (.reaching order (w.feed? key)))
  | .reached key answer =>
    match w.work[key]? with
    | some (.reaching order known) => some (w.onReached key order known answer)
    | _ => none
  | .consulted key =>
    match w.work[key]? with
    | some (.seeking order aim) =>
      match w.pinned with
      | some types => some (w.onFound key order aim (.ok types))
      | none => some (w.proceed key (.discovering order aim))
    | _ => none
  | .discovered key answer =>
    match w.work[key]? with
    | some (.discovering order aim) => some (w.onFound key order aim answer)
    | _ => none
  | .taken key =>
    match w.work[key]? with
    | some (.taking order found) =>
      match w.table[key]? with
      | none => some (w.onFree key order .started found)
      | some n => some ((w.unseat key).proceed key (.clearing order found n))
    | _ => none
  | .cleared key => (w.work[key]?).bind (w.onCleared? key)
  | .launched key made =>
    match w.work[key]? with
    | some (.starting order outcome types) => w.onLaunched? key order outcome types made
    | _ => none
  | .seated key =>
    match w.work[key]? with
    | some (.installing outcome n) =>
      some ((w.seat key n).proceed key (.entering outcome n))
    | _ => none
  | .entered key =>
    match w.work[key]? with
    | some (.entering outcome n) =>
      (w.tenures[n]?).map fun t =>
        (w.enter key t.feed).finish key (.ensured key (.ok outcome))
    | _ => none
  | .stop key => if key ∈ w.work then none else some (w.onStop key)
  | .resync key now => if key ∈ w.work then none else some (w.onResync key now)
  | .replied key answer now =>
    match w.work[key]? with
    | some (.telling n told) => some (w.onReplied key n told answer now)
    | _ => none
  | .shutdown => if ∃ key ∈ w.table.keys, key ∈ w.work then none else some w.onShutdown
  | .shutdownEnds keys =>
    if keys ∈ w.shutdowns ∧ keys.all w.isClosed then
      some { w with
        work := keys.foldl (fun work key => work.erase key) w.work
        shutdowns := w.shutdowns.erase keys }
    else none
  | .goesOn n f =>
    (w.tenures[n]?).bind fun t =>
      if f.Succeeds t.feed then some { w with tenures := w.tenures.set n { t with feed := f } }
      else none
  | .due n now =>
    (w.tenures[n]?).bind fun t =>
      match t.task with
      | .resting =>
        if t.feed.notesResync then
          some (w.setTask n t (.telling (ResyncSource.collect now t.feed.sources)))
        else none
      | _ => none
  | .told n answer now =>
    (w.tenures[n]?).bind fun t =>
      match t.task with
      | .telling told => some (w.onTold n t told answer now)
      | _ => none
  | .ends n =>
    (w.tenures[n]?).bind fun t =>
      match t.task with
      | .resting => some (w.setTask n t .ended)
      | _ => none

/-- Events one after the other. -/
def run? (w : Office) (es : List Event) : Option Office := es.foldlM step? w

end Office

end ClusterFeed.Control
