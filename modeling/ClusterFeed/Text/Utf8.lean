/-!
# Reading UTF-8

Octets are read into *units*: a unit is a character, or stands for a stretch of octets that is no
character. Such a stretch is as long as it can be while it still begins some character, and at
least one octet long. A text is readable when every unit is a character; read leniently, each
unreadable stretch becomes one replacement character.
-/

namespace ClusterFeed.Text

/-- A character of a text, or `none` for one unreadable stretch of octets. -/
abbrev Unit8 := Option Char

/-- The units of a text that is already made of characters. -/
def unitsOf (s : String) : List Unit8 :=
  s.toList.map some

/-- How a character of several octets goes on after its first octet: how many octets follow, and
between which bounds the second octet lies. The bounds keep out overlong forms, surrogates and
numbers beyond the last character. -/
structure Lead where
  /-- The number of octets after the first. -/
  follow : Nat
  /-- The least second octet. -/
  low : UInt8
  /-- The greatest second octet. -/
  high : UInt8
  /-- The bits that the first octet gives. -/
  bits : Nat

/-- The meaning of a first octet of `0x80` and above; `none` when no character begins with it. -/
def lead? (b : UInt8) : Option Lead :=
  if b < 0xC2 then none
  else if b < 0xE0 then some ⟨1, 0x80, 0xBF, b.toNat - 0xC0⟩
  else if b = 0xE0 then some ⟨2, 0xA0, 0xBF, 0⟩
  else if b = 0xED then some ⟨2, 0x80, 0x9F, 0xD⟩
  else if b < 0xF0 then some ⟨2, 0x80, 0xBF, b.toNat - 0xE0⟩
  else if b = 0xF0 then some ⟨3, 0x90, 0xBF, 0⟩
  else if b < 0xF4 then some ⟨3, 0x80, 0xBF, b.toNat - 0xF0⟩
  else if b = 0xF4 then some ⟨3, 0x80, 0x8F, 4⟩
  else none

/-- Whether an octet continues a character. -/
def isTail (b : UInt8) : Bool :=
  0x80 ≤ b && b ≤ 0xBF

/-- What has been read of a character of several octets. -/
inductive Progress where
  /-- Between characters. -/
  | start
  /-- The second octet is due. -/
  | second (lead : Lead)
  /-- `left + 1` octets are due, each a plain continuation; `bits` are the bits read so far. -/
  | tail (left : Nat) (bits : Nat)

/-- Reads octets in the given state; the units read so far come last first. An octet that cannot
go on closes the stretch before it and is looked at again as a first octet. -/
def readUnits : Progress → List Unit8 → List UInt8 → List Unit8
  | .start, acc, [] => acc.reverse
  | .second _, acc, [] => (none :: acc).reverse
  | .tail _ _, acc, [] => (none :: acc).reverse
  | .start, acc, b :: bs => first acc b bs
  | .second l, acc, b :: bs =>
    if l.low ≤ b && b ≤ l.high then
      let bits := l.bits * 64 + (b.toNat - 0x80)
      match l.follow with
      | 0 | 1 => readUnits .start (some (Char.ofNat bits) :: acc) bs
      | n + 2 => readUnits (.tail n bits) acc bs
    else first (none :: acc) b bs
  | .tail left bits, acc, b :: bs =>
    if isTail b then
      let bits := bits * 64 + (b.toNat - 0x80)
      match left with
      | 0 => readUnits .start (some (Char.ofNat bits) :: acc) bs
      | n + 1 => readUnits (.tail n bits) acc bs
    else first (none :: acc) b bs
where
  /-- Reads an octet as the first one of a character. -/
  first (acc : List Unit8) (b : UInt8) (bs : List UInt8) : List Unit8 :=
    if b < 0x80 then readUnits .start (some (Char.ofNat b.toNat) :: acc) bs
    else match lead? b with
      | some l => readUnits (.second l) acc bs
      | none => readUnits .start (none :: acc) bs

/-- The units of a sequence of octets. -/
def units (bytes : List UInt8) : List Unit8 :=
  readUnits .start [] bytes

/-- The text with one replacement character for each unreadable stretch. -/
def lenient (us : List Unit8) : String :=
  String.ofList (us.map (·.getD '\uFFFD'))

/-- The octets as a text, with one replacement character for each unreadable stretch. -/
def decodeLenient (bytes : List UInt8) : String :=
  lenient (units bytes)

/-- The octets as a text, if all of them are readable. -/
def decode? (bytes : List UInt8) : Option String :=
  ((units bytes).mapM id).map String.ofList

/-- The last place up to an octet that lies between two characters of a text, or before or behind
them all. The search goes down octet by octet; none when it would go below the first. -/
def lastPlace? (s : String) : Nat → Option s.Pos
  | 0 => if h : (⟨0⟩ : String.Pos.Raw).IsValid s then some ⟨⟨0⟩, h⟩ else none
  | n + 1 =>
    if h : (⟨n + 1⟩ : String.Pos.Raw).IsValid s then some ⟨⟨n + 1⟩, h⟩ else lastPlace? s n

/-- The text cut after at most `budget` octets, never inside a character. -/
def truncate (budget : Nat) (s : String) : String :=
  if s.utf8ByteSize ≤ budget then s
  else match lastPlace? s budget with
    | some p => (s.sliceTo p).copy
    -- the text begins with a place to cut it
    | none => s

/-- The octets of a text. -/
def octets (s : String) : List UInt8 :=
  s.toUTF8.toList

end ClusterFeed.Text
