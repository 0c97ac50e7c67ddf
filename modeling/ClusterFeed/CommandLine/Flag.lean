/-!
# Flags

The flags of the command line, the commands that take them, and their values. A flag that is not
given may be set by a variable of the environment.
-/

namespace ClusterFeed.CommandLine

/-- A flag that takes a value. -/
inductive Flag where
  /-- Which log lines are written. -/
  | log
  /-- The address at which metrics are served. -/
  | metricsAddr
  /-- The form of the list of types. -/
  | output
  /-- How many changes wait in the intake queue of a feed. -/
  | queueCapacity
  /-- How often a request to the index is sent again. -/
  | maxRetries
  /-- The wait before the first retry, in milliseconds. -/
  | initialBackoff
  /-- The longest wait before a retry, in milliseconds. -/
  | maxBackoff
  /-- How long an answer of the index may take, in seconds. -/
  | requestTimeout
  /-- After how many seconds a configuration is looked at again. -/
  | requeue
  deriving DecidableEq, Repr, Inhabited

/-- A command. -/
inductive CommandName where
  /-- Runs the controller. -/
  | run
  /-- Prints the types that there are to watch. -/
  | discover
  /-- Prints the definition of configurations. -/
  | crd
  deriving DecidableEq, Repr, Inhabited

/-- The form in which types are printed. -/
inductive Output where
  /-- One line for each type. -/
  | human
  /-- One JSON value. -/
  | json
  deriving DecidableEq, Repr, Inhabited

/-- The value of a flag. -/
inductive Value where
  /-- Any text. -/
  | text (s : String)
  /-- A form of output. -/
  | output (o : Output)
  /-- A number. -/
  | number (n : Nat)
  deriving DecidableEq, Repr, Inhabited

/-- Why a command line is not carried out. -/
inductive UsageError where
  /-- There is no such command. -/
  | invalidSubcommand
  /-- A word is neither a flag nor wanted. -/
  | unknownArgument
  /-- A value is missing, or none of those that are possible. -/
  | invalidValue
  /-- A value is not a number, or not in its range. -/
  | valueValidation
  /-- A flag comes twice. -/
  | argumentConflict
  /-- A flag has a value but takes none. -/
  | tooManyValues
  /-- There is no command. -/
  | missingSubcommand
  /-- Help was asked for. -/
  | displayHelp
  /-- The version was asked for. -/
  | displayVersion
  /-- There is nothing at all, so help is given. -/
  | displayHelpOnMissingArgumentOrSubcommand
  deriving DecidableEq, Repr, Inhabited

namespace CommandName

/-- The word for a command. -/
def word : CommandName → String
  | run => "run"
  | discover => "discover"
  | crd => "crd"

/-- The command of the given word. -/
def ofWord? (s : String) : Option CommandName :=
  [run, discover, crd].find? (·.word == s)

end CommandName

namespace Flag

/-- The long name of a flag. -/
def name : Flag → String
  | log => "log"
  | metricsAddr => "metrics-addr"
  | output => "output"
  | queueCapacity => "queue-capacity"
  | maxRetries => "max-retries"
  | initialBackoff => "initial-backoff-ms"
  | maxBackoff => "max-backoff-ms"
  | requestTimeout => "request-timeout-secs"
  | requeue => "requeue-secs"

/-- The short name of a flag, if it has one. -/
def letter? : Flag → Option Char
  | output => some 'o'
  | _ => none

/-- The variable that may set a flag. -/
def envName? : Flag → Option String
  | log => some "MCPSYNC_LOG"
  | metricsAddr => some "MCPSYNC_METRICS_ADDR"
  | output => none
  | queueCapacity => some "MCPSYNC_QUEUE_CAPACITY"
  | maxRetries => some "MCPSYNC_MAX_RETRIES"
  | initialBackoff => some "MCPSYNC_INITIAL_BACKOFF_MS"
  | maxBackoff => some "MCPSYNC_MAX_BACKOFF_MS"
  | requestTimeout => some "MCPSYNC_REQUEST_TIMEOUT_SECS"
  | requeue => some "MCPSYNC_REQUEUE_SECS"

/-- The flags that may stand anywhere. -/
def everywhere : List Flag := [log, metricsAddr]

/-- The flags that a command takes. -/
def ofCommand : CommandName → List Flag
  | .run =>
    [queueCapacity, maxRetries, initialBackoff, maxBackoff, requestTimeout, requeue] ++ everywhere
  | .discover => output :: everywhere
  | .crd => everywhere

/-- The number that digits write, with a plus sign before them or none. -/
def natural? (cs : List Char) : Option Nat :=
  let ds := match cs with
    | '+' :: ds => ds
    | ds => ds
  if ds.isEmpty || !ds.all Char.isDigit then none
  else some (ds.foldl (fun n d => n * 10 + (d.toNat - 48)) 0)

/-- A number below a bound. -/
def natural64? (s : String) : Option Nat :=
  (natural? s.toList).filter fun n => decide (n < 18446744073709551616)

/-- A number of 32 bits. It may be written with a sign, so that a negative zero is a number. -/
def natural32? (s : String) : Option Nat :=
  let n := match s.toList with
    | '-' :: '+' :: _ => none
    | '-' :: ds => (natural? ds).filter fun n => decide (n = 0)
    | ds => natural? ds
  n.filter fun n => decide (n < 4294967296)

/-- Reads the value of a flag. -/
def read (f : Flag) (s : String) : Except UsageError Value :=
  match f with
  | log => .ok (.text s)
  | metricsAddr => .ok (.text s)
  | output =>
    match s with
    | "human" => .ok (.output .human)
    | "json" => .ok (.output .json)
    | _ => .error .invalidValue
  | maxRetries =>
    match natural32? s with
    | some n => .ok (.number n)
    | none => .error .valueValidation
  | _ =>
    match natural64? s with
    | some n => .ok (.number n)
    | none => .error .valueValidation

end Flag

end ClusterFeed.CommandLine
