/-!
# Targets of requests

What a request to the cluster names: a path, and perhaps a query behind a question mark. A target is
put together from texts that may hold anything, so not every target can be sent, and what is sent
need not be all of it: a number sign ends the target, and the first question mark ends the path.
-/

namespace ClusterFeed.Cluster

/-- What a request names. -/
structure Target where
  /-- The path. -/
  path : String
  /-- What follows the first question mark. -/
  query : String
  deriving DecidableEq, Repr, Inhabited

namespace Target

/-- Why a target cannot be sent. -/
inductive Flaw where
  /-- It is too long. -/
  | tooLong
  /-- It holds a character that can stand in no target. -/
  | badCharacter
  deriving DecidableEq, Repr, Inhabited

/-- The text of a flaw. -/
def Flaw.message : Flaw → String
  | .tooLong => "uri too long"
  | .badCharacter => "invalid uri character"

/-- The greatest number of octets of a target. -/
def maxOctets : Nat := 65534

/-- Whether a character shows in print: it is no blank and no control of the basic characters. -/
def isPlain (c : Char) : Bool :=
  0x80 ≤ c.toNat || (0x21 ≤ c.toNat && c.toNat ≤ 0x7E)

/-- Whether a character can stand in a path. -/
def inPath (c : Char) : Bool :=
  isPlain c && c != '<' && c != '>' && c != '\x60'

/-- Whether a character can stand in a query. -/
def inQuery (c : Char) : Bool :=
  isPlain c && c != '<' && c != '>' && c != '"'

/-- The target that a text is. -/
def ofText? (text : String) : Except Flaw Target :=
  if maxOctets < text.utf8ByteSize then .error .tooLong
  else
    let cs := text.toList.takeWhile (· != '#')
    let path := cs.takeWhile (· != '?')
    let query := (cs.dropWhile (· != '?')).drop 1
    if path.all inPath && query.all inQuery then .ok ⟨String.ofList path, String.ofList query⟩
    else .error .badCharacter

end Target

end ClusterFeed.Cluster
