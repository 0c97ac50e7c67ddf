/-!
# Base 64

The standard alphabet with padding. A text is decoded only if it is the one text that encodes its
octets: whole groups of four, padding at the end alone, and no stray bits under the padding.
-/

namespace ClusterFeed.Text.Base64

/-- The six bits of a letter of the standard alphabet. -/
def value? (c : Char) : Option Nat :=
  if 'A' ≤ c && c ≤ 'Z' then some (c.toNat - 65)
  else if 'a' ≤ c && c ≤ 'z' then some (c.toNat - 71)
  else if '0' ≤ c && c ≤ '9' then some (c.toNat + 4)
  else if c = '+' then some 62
  else if c = '/' then some 63
  else none

/-- The octets of an encoded text, last first; `none` when the text encodes nothing. -/
def decodeFrom : List UInt8 → List Char → Option (List UInt8)
  | acc, [] => some acc
  | acc, [a, b, '=', '='] => do
    let x ← value? a
    let y ← value? b
    if y % 16 = 0 then some (UInt8.ofNat (x * 4 + y / 16) :: acc) else none
  | acc, [a, b, c, '='] => do
    let x ← value? a
    let y ← value? b
    let z ← value? c
    if z % 4 = 0 then
      some (UInt8.ofNat (y % 16 * 16 + z / 4) :: UInt8.ofNat (x * 4 + y / 16) :: acc)
    else none
  | acc, a :: b :: c :: d :: rest => do
    let x ← value? a
    let y ← value? b
    let z ← value? c
    let w ← value? d
    decodeFrom (UInt8.ofNat (z % 4 * 64 + w) :: UInt8.ofNat (y % 16 * 16 + z / 4) ::
      UInt8.ofNat (x * 4 + y / 16) :: acc) rest
  | _, _ => none

/-- The octets of an encoded text. -/
def decode? (s : String) : Option (List UInt8) :=
  (decodeFrom [] s.toList).map List.reverse

end ClusterFeed.Text.Base64
