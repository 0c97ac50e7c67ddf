/-!
# Versions of an API

Versions are named `v` and a number, with `alpha` or `beta` behind it and perhaps another number.
Stable versions go before beta versions, these before alpha versions, and these before all other
names. Among versions of one sort the higher number goes first; a missing number is below any other.
Other names go in the order of the alphabet.
-/

namespace ClusterFeed.Cluster

/-- What the name of a version says. -/
inductive Version where
  /-- A stable version. -/
  | stable (major : Nat)
  /-- A beta version. -/
  | beta (major : Nat) (minor : Option Nat)
  /-- An alpha version. -/
  | alpha (major : Nat) (minor : Option Nat)
  /-- Any other name. -/
  | other (name : String)
  deriving DecidableEq, Repr, Inhabited

namespace Version

/-- A number of 32 bits, written in digits. -/
def number? (cs : List Char) : Option Nat :=
  if cs.isEmpty || !cs.all Char.isDigit then none
  else
    let n := cs.foldl (fun n d => n * 10 + (d.toNat - 48)) 0
    if n < 4294967296 then some n else none

/-- A number that may have a plus sign before it. -/
def signedNumber? : List Char → Option Nat
  | '+' :: cs => number? cs
  | cs => number? cs

/-- The number behind `alpha` or `beta`, if the name is well formed. -/
def suffix? (cs : List Char) : Option (Option Nat) :=
  if cs.isEmpty then some none else (signedNumber? cs).map some

/-- The sort and the number of a version behind its first number. -/
def stage? (major : Nat) (cs : List Char) : Option Version :=
  if cs.isEmpty then some (.stable major)
  else if "alpha".toList.isPrefixOf cs then (suffix? (cs.drop 5)).map (.alpha major)
  else if "beta".toList.isPrefixOf cs then (suffix? (cs.drop 4)).map (.beta major)
  else none

/-- Reads the name of a version. -/
def ofName (name : String) : Version :=
  let version? : Option Version :=
    match name.toList with
    | 'v' :: cs => do stage? (← number? (cs.takeWhile Char.isDigit)) (cs.dropWhile Char.isDigit)
    | _ => none
  version?.getD (.other name)

/-- How early a version goes, the numbers of the greatest first. A missing number counts as zero
and any other as one more than it is. -/
def rank : Version → Nat × Nat × Nat
  | .stable m => (3, m, 0)
  | .beta m n => (2, m, (n.map (· + 1)).getD 0)
  | .alpha m n => (1, m, (n.map (· + 1)).getD 0)
  | .other _ => (0, 0, 0)

/-- Whether a version may go before another. -/
def before (a b : Version) : Bool :=
  match a, b with
  | .other x, .other y => decide (x ≤ y)
  | a, b => (compare a.rank.1 b.rank.1 |>.then (compare a.rank.2.1 b.rank.2.1) |>.then
      (compare a.rank.2.2 b.rank.2.2)) != .lt

/-- The name that goes first; of names that are equal in rank the one that comes first. -/
def first? (names : List String) : Option String :=
  (names.mergeSort fun a b => before (ofName a) (ofName b)).head?

end Version

end ClusterFeed.Cluster
