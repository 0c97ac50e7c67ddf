import ClusterFeed.Control.Outside
import ClusterFeed.Control.Config

/-!
# The finalizer of the controller

As long as a configuration carries a finalizer, the cluster only marks it when it is told to remove
it. The changes to the list of finalizers begin with a test, so that they fail rather than touch the
finalizer of somebody else.

These are the changes that the wrapper around `apply` and `cleanup` makes.
-/

namespace ClusterFeed.Control

open Cluster (Failure Patch)

namespace SyncConfig

/-- The finalizer of the controller. -/
def finalizer : String := "mcpsync.dev/cleanup"

/-- The finalizers on a configuration. -/
def finalizers (c : SyncConfig) : List String := c.metadata.finalizers.getD []

/-- The place of the controller's finalizer among the finalizers. -/
def finalizerIndex? (c : SyncConfig) : Option Nat := c.finalizers.idxOf? finalizer

/-- The path of the finalizers in a configuration. -/
def finalizersPath : String := "/metadata/finalizers"

/-- One step of a change: the value at a path must be the given one. -/
def testStep (path : String) (value : Json) : Json :=
  .obj [("op", .str "test"), ("path", .str path), ("value", value)]

/-- One step of a change: a value is added at a path. -/
def addStep (path : String) (value : Json) : Json :=
  .obj [("op", .str "add"), ("path", .str path), ("value", value)]

/-- One step of a change: what is at a path is removed. -/
def removeStep (path : String) : Json :=
  .obj [("op", .str "remove"), ("path", .str path)]

/-- The change that adds the finalizer. It fails when the finalizers have changed meanwhile. -/
def addition (c : SyncConfig) : Json :=
  match c.finalizers with
  | [] => .arr [testStep finalizersPath .null, addStep finalizersPath (Json.texts [finalizer])]
  | fs => .arr [testStep finalizersPath (Json.texts fs),
      addStep (finalizersPath ++ "/-") (.str finalizer)]

/-- The change that removes the finalizer from its place. It fails when another one stands there
meanwhile. -/
def removal (index : Nat) : Json :=
  let path := finalizersPath ++ "/" ++ toString index
  .arr [testStep path (.str finalizer), removeStep path]

/-- Makes a change to the configuration with the given namespace and name. -/
def change {σ : Type} (o : Outside σ) (scope name : String) (steps : Json) (s : σ) :
    Except Failure SyncConfig × σ :=
  o.cluster.apply ⟨path scope name, "application/json-patch+json", steps⟩ decode s

end SyncConfig

end ClusterFeed.Control
