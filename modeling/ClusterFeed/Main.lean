import ClusterFeed.CommandLine.Program

/-!
# The executable

Reads the command line and the environment, and prints what the program leaves behind. The
executable has no network of its own: without a way to the cluster, the commands that need one say
so and fail.
-/

namespace ClusterFeed

open CommandLine (Invocation Outcome)

/-- The variables of the environment that are looked at. -/
def environmentNames : List String :=
  ["MCPSYNC_LOG", "MCPSYNC_METRICS_ADDR", "MCPSYNC_QUEUE_CAPACITY", "MCPSYNC_MAX_RETRIES",
    "MCPSYNC_INITIAL_BACKOFF_MS", "MCPSYNC_MAX_BACKOFF_MS", "MCPSYNC_REQUEST_TIMEOUT_SECS",
    "MCPSYNC_REQUEUE_SECS"]

/-- Reads the environment. -/
def readEnvironment : IO Invocation.Environment :=
  environmentNames.foldlM (fun env name => do
    match ← IO.getEnv name with
    | some value => return env.insert name value
    | none => return env) ∅

/-- Surroundings in which nothing can be reached. -/
def nowhere : Control.Outside Unit where
  cluster := ⟨fun _ s => (.notFound, s), fun _ s => (.notFound, s), fun _ s => (false, s)⟩
  index := ⟨fun _ => false, fun _ _ _ s => (.error (.http "no network"), s),
    fun s => (Double.ofNat 1, s), fun _ s => (false, s)⟩
  connect s := (.error .unreachable, s)
  prepare _ s := (.ok (), s)
  now _ := ⟨0, 0⟩

end ClusterFeed

/-- Runs the program. -/
def main (words : List String) : IO UInt32 := do
  let env ← ClusterFeed.readEnvironment
  let (outcome, _) := ClusterFeed.CommandLine.runProgram ClusterFeed.nowhere env words ()
  IO.print outcome.output
  IO.eprint outcome.errors
  return outcome.code.toUInt32
