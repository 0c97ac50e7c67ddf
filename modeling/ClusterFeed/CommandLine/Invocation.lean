import ClusterFeed.CommandLine.Reading
import ClusterFeed.Control.Outside

/-!
# Invocations

What a command line asks for, with the values that hold where nothing is given.

`options` makes of it what is set for all feeds.
-/

namespace ClusterFeed.CommandLine

open Time (Duration)

/-- What the controller is run with. -/
structure RunSettings where
  /-- How many changes wait in the intake queue of a feed. -/
  queueCapacity : Nat
  /-- How often a request to the index is sent again. -/
  maxRetries : Nat
  /-- The wait before the first retry, in milliseconds. -/
  initialBackoffMillis : Nat
  /-- The longest wait before a retry, in milliseconds. -/
  maxBackoffMillis : Nat
  /-- How long an answer of the index may take, in seconds. -/
  requestTimeoutSeconds : Nat
  /-- After how many seconds a configuration is looked at again. -/
  requeueSeconds : Nat
  deriving DecidableEq, Repr, Inhabited

/-- What is to be done. -/
inductive Command where
  /-- The controller runs. -/
  | run (s : RunSettings)
  /-- The types that there are to watch are printed. -/
  | discover (o : Output)
  /-- The definition of configurations is printed. -/
  | crd
  deriving DecidableEq, Repr, Inhabited

/-- What a command line asks for. -/
structure Invocation where
  /-- Which log lines are written. -/
  log : String
  /-- The address at which metrics are served. -/
  metricsAddr : Option String
  /-- What is to be done. -/
  command : Command
  deriving DecidableEq, Repr, Inhabited

namespace RunSettings

/-- The options of the controller. -/
def options (s : RunSettings) : Control.Options :=
  ⟨s.queueCapacity, s.maxRetries, .ofMillis s.initialBackoffMillis, .ofMillis s.maxBackoffMillis,
    .ofSeconds s.requestTimeoutSeconds⟩

end RunSettings

namespace Reading

/-- The number that a flag gives. -/
def number (r : Reading) (f : Flag) (dflt : Nat) : Nat :=
  match r.value? f with
  | some (.number n) => n
  | _ => dflt

/-- The text that a flag gives. -/
def text? (r : Reading) (f : Flag) : Option String :=
  match r.value? f with
  | some (.text s) => some s
  | _ => none

/-- What the controller is run with. -/
def runSettings (r : Reading) : RunSettings where
  queueCapacity := r.number .queueCapacity 4096
  maxRetries := r.number .maxRetries 3
  initialBackoffMillis := r.number .initialBackoff 1000
  maxBackoffMillis := r.number .maxBackoff 30000
  requestTimeoutSeconds := r.number .requestTimeout 30
  requeueSeconds := r.number .requeue 300

/-- What is to be done. -/
def command (r : Reading) : CommandName → Command
  | .run => .run r.runSettings
  | .discover =>
    match r.value? .output with
    | some (.output o) => .discover o
    | _ => .discover .human
  | .crd => .crd

end Reading

namespace Invocation

/-- The variables of the environment. -/
abbrev Environment := Std.ExtTreeMap String String

/-- The words behind `help` name a command whose help is wanted. -/
def help : List String → UsageError
  | [] => .displayHelp
  | [s] =>
    if (CommandName.ofWord? s).isSome || s == "help" then .displayHelp else .invalidSubcommand
  | _ => .invalidSubcommand

/-- Without a command there is nothing to do. -/
def withoutCommand (env : Environment) (top : Reading) : UsageError :=
  let isSet (f : Flag) := (f.envName?.bind (env[·]?)).isSome
  if top.given.isEmpty && !Flag.everywhere.any isSet then .displayHelpOnMissingArgumentOrSubcommand
  else .missingSubcommand

/-- What the words ask for. A flag behind the command counts instead of the same flag before it, and
either counts instead of a variable of the environment. -/
def ofWords (env : Environment) (words : List String) : Except UsageError Invocation := do
  let (top, entry) ← (Reading.start .top).readAll words
  match entry with
  | none => throw (withoutCommand env (← top.settle))
  | some (word, rest) =>
    match CommandName.ofWord? word with
    | none => throw (help rest)
    | some name =>
      let (inner, _) ← (Reading.start (.within name)).readAll rest
      let inner ← inner.settle
      let completed ← inner.complete env (Flag.ofCommand name)
      let top ← top.settle
      let text? (f : Flag) := (inner.text? f).orElse fun _ =>
        (top.text? f).orElse fun _ => completed.text? f
      return ⟨(text? .log).getD "info", text? .metricsAddr, completed.command name⟩

end Invocation

end ClusterFeed.CommandLine
