/-!
# Octets in hexadecimal digits

Each octet is two digits, the upper half first.
-/

namespace ClusterFeed.Text.Hex

/-- The value of a digit. -/
def value? (c : Char) : Option Nat :=
  if '0' ≤ c && c ≤ '9' then some (c.toNat - 48)
  else if 'a' ≤ c && c ≤ 'f' then some (c.toNat - 87)
  else if 'A' ≤ c && c ≤ 'F' then some (c.toNat - 55)
  else none

/-- The octets that digits write. -/
def decode? : List Char → Option (List UInt8)
  | [] => some []
  | [_] => none
  | a :: b :: cs =>
    match value? a, value? b, decode? cs with
    | some high, some low, some rest => some ((high * 16 + low).toUInt8 :: rest)
    | _, _, _ => none

end ClusterFeed.Text.Hex
