import ClusterFeed.Text.Blank
import ClusterFeed.Text.Utf8

/-!
# The endpoint of the index

A configured endpoint is brought into one form: no blanks around it, no slash at its end, and the
path of the sync interface at its end exactly if it was not there before. The second half of this
module tells which target a request to such an address names on the wire.

The form is that of `normalize_endpoint`.
-/

namespace ClusterFeed.Sync

/-- The path of the sync interface. -/
def syncPath : String := "/api/v1/resources/sync"

/-- The endpoint without the path of the sync interface, unless it was written out. -/
def strippedEndpoint (endpoint : String) : List Char :=
  Text.dropEnd (· == '/') (Text.trimChars endpoint.toList)

/-- The address to which requests go. -/
def normalizeEndpoint (endpoint : String) : String :=
  let cs := strippedEndpoint endpoint
  if Text.endsWith cs syncPath.toList then String.ofList cs
  else String.ofList (cs ++ syncPath.toList)

/-- Upper-case hexadecimal digit. -/
def upperHex (n : Nat) : Char :=
  if n < 10 then Char.ofNat (48 + n) else Char.ofNat (55 + n)

/-- One octet by number. -/
def percent (b : UInt8) : List Char :=
  ['%', upperHex (b.toNat / 16), upperHex (b.toNat % 16)]

/-- A character of an address, by number if it is among the given ones or not plain ASCII. -/
def addressChar (numbered : List Char) (c : Char) : List Char :=
  if c.toNat < 0x21 || c.toNat > 0x7E || numbered.contains c then
    (Text.octets (String.singleton c)).flatMap percent
  else [c]

/-- The characters that stand for themselves in no path. -/
def pathNumbered : List Char := ['"', '#', '<', '>', '?', '\x60', '\x7b', '\x7d']

/-- The characters that stand for themselves in no query. -/
def queryNumbered : List Char := ['"', '#', '<', '>', '\'']

/-- Whether a segment of a path names the segment itself. -/
def isDot (s : List Char) : Bool :=
  s = ['.'] || s.map Char.toLower = ['%', '2', 'e']

/-- Whether a segment of a path names the segment before it. -/
def isDotDot (s : List Char) : Bool :=
  let s := s.map Char.toLower
  s = ['.', '.'] || s = ['.', '%', '2', 'e'] || s = ['%', '2', 'e', '.'] ||
    s = ['%', '2', 'e', '%', '2', 'e']

/-- Splits characters at each slash. -/
def segments (cs : List Char) : List (List Char) :=
  cs.splitOnP fun c => c == '/' || c == '\\'

/-- Resolves the segments of a path; those before, last first. -/
def resolveSegments : List (List Char) → List (List Char) → List (List Char)
  | before, [] => before.reverse
  | before, [s] =>
    if isDotDot s then (([] : List Char) :: before.drop 1).reverse
    else if isDot s then (([] : List Char) :: before).reverse
    else (s :: before).reverse
  | before, s :: rest =>
    if isDotDot s then resolveSegments (before.drop 1) rest
    else if isDot s then resolveSegments before rest
    else resolveSegments (s :: before) rest

/-- The path on the wire. -/
def wirePath (cs : List Char) : List Char :=
  let segs := resolveSegments [] (segments (cs.drop 1))
  segs.flatMap fun s => '/' :: s.flatMap (addressChar pathNumbered)

/-- An address without the blanks and controls around it, which do not count. -/
def bareAddress (url : String) : List Char :=
  let isEdge (c : Char) : Bool := c.toNat ≤ 0x20
  Text.dropEnd isEdge (url.toList.dropWhile isEdge)

/-- The target that a request to `url` names, if the address is one of the server at `base`. What
follows the base must be a path, a query or nothing; a fragment is not sent. -/
def requestTarget? (base url : String) : Option String :=
  let address := bareAddress url
  if base.toList.isPrefixOf address then
    let rest := (address.drop base.toList.length).filter
      fun c => c != '\t' && c != '\n' && c != '\r'
    let rest := rest.takeWhile (· != '#')
    let path := rest.takeWhile (· != '?')
    let query := rest.dropWhile (· != '?')
    let query := match query with
      | '?' :: q => '?' :: q.flatMap (addressChar queryNumbered)
      | _ => []
    match path with
    | [] => some (String.ofList ('/' :: query))
    | c :: _ =>
      if c == '/' || c == '\\' then some (String.ofList (wirePath path ++ query)) else none
  else none

/-- The header by which a token authorises a request. -/
def bearer (token : String) : String := "Bearer " ++ token

/-- Whether a token can be sent in a header: no control characters but the tab. -/
def isSendable (token : String) : Bool :=
  token.toList.all fun c => (c.toNat ≥ 32 || c == '\t') && c.toNat != 127

end ClusterFeed.Sync
