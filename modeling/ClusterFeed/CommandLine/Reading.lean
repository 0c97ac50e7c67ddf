import ClusterFeed.CommandLine.Flag
import Std.Data.ExtTreeMap

/-!
# Reading the command line

The words of the command line are read one after the other. A flag has its value behind an equals
sign or in the next word, and a value in the next word is looked at only when the next flag comes or
the words end; whichever fault is met first in this way is reported. The words after a command are
the command's own, and are read to their end before the words ahead of it are settled.
-/

namespace ClusterFeed.CommandLine

/-- The form of a word. -/
inductive Word where
  /-- Two dashes: all further words are plain. -/
  | stop
  /-- The long name of a flag, with a value or without. -/
  | long (name : String) (value : Option String)
  /-- Short names of flags. -/
  | short (letters : List Char)
  /-- Anything else. -/
  | plain
  deriving Inhabited

/-- The form of a word. -/
def Word.ofString (s : String) : Word :=
  match s.toList with
  | ['-', '-'] => .stop
  | '-' :: '-' :: cs =>
    let name := String.ofList (cs.takeWhile (· != '='))
    match cs.dropWhile (· != '=') with
    | _ :: value => .long name (some (String.ofList value))
    | [] => .long name none
  | '-' :: c :: cs => .short (c :: cs)
  | _ => .plain

/-- Where the words stand: before a command or behind it. -/
inductive Level where
  /-- Before the command. -/
  | top
  /-- Behind the command. -/
  | within (c : CommandName)
  deriving DecidableEq, Repr, Inhabited

/-- The flags that may be given. -/
def Level.flags : Level → List Flag
  | top => Flag.everywhere
  | within c => Flag.ofCommand c

/-- What has been read. -/
structure Reading where
  /-- Where the words stand. -/
  level : Level
  /-- The flags with their values. -/
  given : List (Flag × Value)
  /-- The flag that was read last, while its value stands in a word of its own, and that word. -/
  open? : Option (Flag × Option String)
  /-- Whether two dashes have been read. -/
  literal : Bool
  deriving Inhabited

namespace Reading

/-- Before the first word. -/
def start (level : Level) : Reading := ⟨level, [], none, false⟩

/-- Whether the next word is a value. -/
def wantsValue (r : Reading) : Bool :=
  match r.open? with
  | some (_, none) => true
  | _ => false

/-- Whether a flag was given. -/
def has (r : Reading) (f : Flag) : Bool := r.given.any (·.1 == f)

/-- Gives a flag its value. -/
def give (r : Reading) (f : Flag) (s : String) : Except UsageError Reading :=
  if r.has f then .error .argumentConflict
  else (f.read s).map fun v => { r with given := r.given ++ [(f, v)] }

/-- Settles the flag that was read last. -/
def settle (r : Reading) : Except UsageError Reading :=
  match r.open? with
  | none => .ok r
  | some (_, none) => .error .invalidValue
  | some (f, some s) => { r with open? := none }.give f s

/-- A flag, with a value or before it. -/
def readFlag (r : Reading) (f : Flag) (value : Option String) : Except UsageError Reading :=
  r.settle.bind fun r => match value with
    | some s => r.give f s
    | none => .ok { r with open? := some (f, none) }

/-- The flag that is asked for by help or version. -/
def answer (r : Reading) (e : UsageError) : Except UsageError Reading :=
  r.settle.bind fun _ => .error e

/-- The long name of a flag. -/
def readLong (r : Reading) (name : String) (value : Option String) : Except UsageError Reading :=
  let bare (e : UsageError) := if value.isSome then .error .tooManyValues else r.answer e
  if name = "help" then bare .displayHelp
  else if name = "version" && r.level == .top then bare .displayVersion
  else match r.level.flags.find? (·.name == name) with
    | some f => r.readFlag f value
    | none => .error .unknownArgument

/-- Short names of flags. The rest of the word is the value of a flag that takes one, behind an
equals sign or not. -/
def readShort (r : Reading) : List Char → Except UsageError Reading
  | [] => .ok r
  | c :: cs =>
    if c = 'h' then r.answer .displayHelp
    else if c = 'V' && r.level == .top then r.answer .displayVersion
    else match r.level.flags.find? (·.letter? == some c) with
      | some f =>
        r.readFlag f <| match cs with
          | [] => none
          | '=' :: cs => some (String.ofList cs)
          | cs => some (String.ofList cs)
      | none => .error .unknownArgument

/-- A word that is no flag and no value. -/
def stray (r : Reading) (s : String) : UsageError :=
  match r.level with
  | .top =>
    if r.literal && ((CommandName.ofWord? s).isSome || s == "help") then .unknownArgument
    else .invalidSubcommand
  | .within _ => .unknownArgument

/-- Reads a word. -/
def step (r : Reading) (s : String) : Except UsageError Reading :=
  let plain := match r.open? with
    | some (f, none) => .ok { r with open? := some (f, some s) }
    | _ => .error (r.stray s)
  if r.literal then .error (r.stray s)
  else match Word.ofString s with
    | .stop => .ok { r with literal := true }
    | .long name value => r.readLong name value
    | .short letters => r.readShort letters
    | .plain => plain

/-- Whether a word may be a command. -/
def mayEnter (r : Reading) : Bool := r.level == .top && !r.literal && !r.wantsValue

/-- Reads words up to a command or to their end; the command and the words behind it. -/
def readAll (r : Reading) :
    List String → Except UsageError (Reading × Option (String × List String))
  | [] => .ok (r, none)
  | s :: rest =>
    if r.mayEnter && ((CommandName.ofWord? s).isSome || s == "help") then
      .ok (r, some (s, rest))
    else (r.step s).bind fun r => r.readAll rest

/-- The value of a flag, if one was given. -/
def value? (r : Reading) (f : Flag) : Option Value := r.given.lookup f

/-- Takes the flags that were not given from the environment. -/
def complete (env : Std.ExtTreeMap String String) : List Flag → Reading → Except UsageError Reading
  | [], r => .ok r
  | f :: fs, r =>
    match f.envName?.bind (env[·]?) with
    | some s =>
      if r.has f then r.complete env fs
      else (r.give f s).bind (complete env fs)
    | none => r.complete env fs

end Reading

end ClusterFeed.CommandLine
