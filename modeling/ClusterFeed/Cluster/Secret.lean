import ClusterFeed.Cluster.Metadata
import ClusterFeed.Cluster.Reply
import ClusterFeed.Sync.Error
import ClusterFeed.Text.Base64

/-!
# Tokens

The token with which requests to the index are authorised stands in a secret of the cluster. It is
read anew each time, so that a changed secret counts at once. A token is never blank, and has no
blanks at its ends.

`token_from` reads a secret, and `token` asks for it.
-/

namespace ClusterFeed.Cluster

open Json (member? memberOr memberIs)
open Sync (CredentialError)

/-- A secret. -/
structure Secret where
  /-- Its values as octets. -/
  data : TextMap (List UInt8)
  /-- Its values as texts. -/
  texts : TextMap String
  deriving Inhabited

/-- Where the token of a configuration stands. -/
structure SecretKey where
  /-- The name of the secret. -/
  name : String
  /-- The key under which the token stands. -/
  key : String
  deriving DecidableEq, Repr, Inhabited

open Json.Decode in
/-- Reads where a token stands. -/
def SecretKey.decode : Json.Decoder SecretKey := fun t => do
  match ← Json.record? ["name", "key"] t with
  | [name, key] => return ⟨← name.required text, ← key.required text⟩
  | _ => none

/-- The place of a token as JSON. -/
def SecretKey.toJson (k : SecretKey) : Json :=
  .obj [("name", .str k.name), ("key", .str k.key)]

namespace Secret

/-- Reads octets in base 64; no value at all is an empty one. -/
def octets : Json.Decoder (List UInt8)
  | .null => some []
  | .text s => s.bind Text.Base64.decode?
  | _ => none

open Json.Decode in
/-- Reads a secret. -/
def decode : Json.Decoder Secret := fun t => do
  let fs ← Json.members? t
  if memberIs fs "apiVersion" "v1" && memberIs fs "kind" "Secret" then
    let _ ← member? fs "immutable" bool
    let _ ← member? fs "metadata" Metadata.decode
    let _ ← member? fs "type" text
    return ⟨← memberOr ∅ fs "data" (map octets), ← memberOr ∅ fs "stringData" (map text)⟩
  else none

/-- The value under a key: that of the octets if there is one, else that of the texts. -/
def value? (s : Secret) (key : String) : Option String :=
  (s.data[key]?.map Text.decodeLenient).orElse fun _ => s.texts[key]?

/-- The token under a key. -/
def token? (s : Secret) (key : String) : Option String :=
  ((s.value? key).map Text.trim).filter (· != "")

/-- The path of a secret. -/
def path (scope name : String) : String :=
  "/api/v1/namespaces/" ++ scope ++ "/secrets/" ++ name

/-- Asks for a secret; none when there is no such secret. -/
def fetch? {σ : Type} (c : Access σ) (scope name : String) : Ask σ (Option Secret) := fun s =>
  match c.fetch (path scope name ++ "?") decode s with
  | (.ok secret, s) => (.ok (some secret), s)
  | (.error e, s) => (if e.isNotFound then .ok none else .error e, s)

end Secret

/-- Reads the token that stands at a place in a namespace. -/
def readToken {σ : Type} (c : Access σ) (scope : String) (place : SecretKey) (s : σ) :
    Except CredentialError String × σ :=
  match Secret.fetch? c scope place.name s with
  | (.error e, s) => (.error (.backend e.message), s)
  | (.ok none, s) => (.error (.notFound scope place.name), s)
  | (.ok (some secret), s) =>
    match secret.token? place.key with
    | some t => (.ok t, s)
    | none => (.error (.keyMissing scope place.name place.key), s)

end ClusterFeed.Cluster
