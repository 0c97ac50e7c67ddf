import ClusterFeed.CommandLine.Invocation
import ClusterFeed.Control.ConfigManifest
import ClusterFeed.Control.Reconcile
import ClusterFeed.Json.Printer

/-!
# The program

What each command does: it prints, and it ends with a code. The controller goes on until it is told
to end; then it stops all feeds, each with one last sending.

The commands are `run`, `discover` and `crd`. What is logged and the metrics that are served are
left out.
-/

namespace ClusterFeed.CommandLine

open Cluster (Page)
open Control (Manager Options Outside SyncConfig)

/-- What a run of the program leaves behind. -/
structure Outcome where
  /-- The code with which it ends. -/
  code : Nat
  /-- What it prints. -/
  output : String
  /-- What it reports of its failure. -/
  errors : String
  deriving DecidableEq, Repr, Inhabited

namespace Outcome

/-- The program has done what was asked for. -/
def success (output : String) : Outcome := ⟨0, output, ""⟩

/-- The program has failed. -/
def failure (cause : String) : Outcome := ⟨1, "", "Error: " ++ cause ++ "\n"⟩

end Outcome

/-- The name of the program. -/
def programName : String := "mcpsync-controller"

/-- The version of the program. -/
def programVersion : String := "0.0.0"

/-- The help. -/
def helpText : String :=
  "Keeps an MCP index in sync with live cluster resources\n\n" ++
  "Usage: " ++ programName ++ " [OPTIONS] <COMMAND>\n\n" ++
  "Commands:\n" ++
  "  run       Run the controller\n" ++
  "  discover  Print the resource types a config would watch\n" ++
  "  crd       Print the ResourceSyncConfig CRD manifest\n" ++
  "  help      Print this message or the help of the given subcommand(s)\n"

/-- What is reported of a command line that is not carried out. -/
def UsageError.report : UsageError → Outcome
  | .displayHelp => .success helpText
  | .displayVersion => .success (programName ++ " " ++ programVersion ++ "\n")
  | .displayHelpOnMissingArgumentOrSubcommand => ⟨2, "", helpText⟩
  | .invalidSubcommand => ⟨2, "", "error: unrecognized subcommand\n"⟩
  | .unknownArgument => ⟨2, "", "error: unexpected argument found\n"⟩
  | .invalidValue => ⟨2, "", "error: invalid value\n"⟩
  | .valueValidation => ⟨2, "", "error: invalid value\n"⟩
  | .argumentConflict => ⟨2, "", "error: the argument cannot be used multiple times\n"⟩
  | .tooManyValues => ⟨2, "", "error: unexpected value found\n"⟩
  | .missingSubcommand => ⟨2, "", "error: a subcommand is required but one was not provided\n"⟩

/-- Why the program fails before it has asked the cluster for anything. -/
def unreachable : String := "building kube client"

/-- Why the controller does not run. -/
def unlistable : String := "listing ResourceSyncConfigs (is the CRD installed?)"

/-- The text of types. -/
def printTypes (types : List WatchedType) : Output → String
  | .human => String.join (types.map fun w => w.line ++ "\n")
  | .json => (Json.arr (types.map WatchedType.toJson)).renderSpread ++ "\n"

/-- Prints the types that there are to watch. -/
def runDiscover {σ : Type} (o : Outside σ) (form : Output) (s : σ) : Outcome × σ :=
  match Cluster.discover o.cluster s with
  | (.ok types, s) => (.success (printTypes types form), s)
  | (.error e, s) => (.failure e.message, s)

/-- Reconciles configurations one after the other. -/
def reconcileAll {σ : Type} (o : Outside σ) : List SyncConfig → Manager → σ → Manager × σ
  | [], m, s => (m, s)
  | c :: cs, m, s =>
    let ((_, m), s) := m.reconcile o c s
    reconcileAll o cs m s

/-- The configurations that the controller finds when it starts: it looks whether they can be
listed at all, and then lists them. -/
def findConfigs {σ : Type} (o : Outside σ) (s : σ) : Except String (List SyncConfig) × σ :=
  let decode := Page.decode SyncConfig.decode
  match o.cluster.fetch (SyncConfig.listPath ++ "?&limit=1") decode s with
  | (.error _, s) => (.error unlistable, s)
  | (.ok _, s) =>
    match o.cluster.fetch (Cluster.pageTarget SyncConfig.listPath) decode s with
    | (.error _, s) => (.ok [], s)
    | (.ok page, s) => (.ok (if page.resourceVersion.isSome then page.items else []), s)

/-- Runs the controller until it is told to end, which is when there is nothing left to do at
once. -/
def runController {σ : Type} (o : Outside σ) (opts : Options) (s : σ) : Outcome × σ :=
  match findConfigs o s with
  | (.error cause, s) => (.failure cause, s)
  | (.ok configs, s) =>
    let (m, s) := reconcileAll o configs (.new opts) s
    match m.shutdown? o s with
    | some (_, s) => (.success "", s)
    | none => (.success "", s)

/-- Does what is asked for. -/
def Command.carryOut {σ : Type} (o : Outside σ) (c : Command) (s : σ) : Outcome × σ :=
  match c with
  | .crd => (.success (SyncConfig.manifest.renderSpread ++ "\n"), s)
  | .discover form =>
    match o.connect s with
    | (.error _, s) => (.failure unreachable, s)
    | (.ok _, s) => runDiscover o form s
  | .run settings =>
    match o.connect s with
    | (.error _, s) => (.failure unreachable, s)
    | (.ok _, s) => runController o settings.options s

/-- Runs the program. -/
def runProgram {σ : Type} (o : Outside σ) (env : Invocation.Environment) (words : List String)
    (s : σ) : Outcome × σ :=
  match Invocation.ofWords env words with
  | .error e => (e.report, s)
  | .ok i => i.command.carryOut o s

end ClusterFeed.CommandLine
