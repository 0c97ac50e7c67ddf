import ClusterFeed.Json.Basic

/-!
# Writing JSON

The compact text of a value, and the text spread over lines. Both escape the quote, the backslash
and the control characters, the common ones by a letter and the others by number.
-/

namespace ClusterFeed.Json

/-- A hexadecimal digit. -/
def hexDigit (n : Nat) : Char :=
  if n < 10 then Char.ofNat (48 + n) else Char.ofNat (87 + n)

/-- One character as it stands between the quotes. -/
def escapeChar (c : Char) : List Char :=
  if c = '"' then ['\\', '"']
  else if c = '\\' then ['\\', '\\']
  else if c = '\x08' then ['\\', 'b']
  else if c = '\x0c' then ['\\', 'f']
  else if c = '\n' then ['\\', 'n']
  else if c = '\r' then ['\\', 'r']
  else if c = '\t' then ['\\', 't']
  else if c.toNat < 0x20 then
    ['\\', 'u', '0', '0', hexDigit (c.toNat / 16), hexDigit (c.toNat % 16)]
  else [c]

/-- A text between quotes. -/
def quoteChars (s : String) : List Char :=
  '"' :: s.toList.flatMap escapeChar ++ ['"']

/-- A number as it is written. -/
def Number.chars (n : Number) : List Char :=
  (if n.negative then ['-'] else []) ++ Nat.toDigits 10 n.whole ++ n.tail.toList

mutual

/-- The characters of the compact text of a value. -/
def chars : Json → List Char
  | .null => ['n', 'u', 'l', 'l']
  | .bool true => ['t', 'r', 'u', 'e']
  | .bool false => ['f', 'a', 'l', 's', 'e']
  | .num n => n.chars
  | .str s => quoteChars s
  | .arr [] => ['[', ']']
  | .arr (x :: xs) => '[' :: (chars x ++ itemChars xs)
  | .obj [] => ['\x7b', '\x7d']
  | .obj (f :: fs) => '\x7b' :: (quoteChars f.1 ++ ':' :: (chars f.2 ++ fieldChars fs))

/-- The further items of an array and its end. -/
def itemChars : List Json → List Char
  | [] => [']']
  | x :: xs => ',' :: (chars x ++ itemChars xs)

/-- The further fields of an object and its end. -/
def fieldChars : List (String × Json) → List Char
  | [] => ['\x7d']
  | f :: fs => ',' :: (quoteChars f.1 ++ ':' :: (chars f.2 ++ fieldChars fs))

end

/-- The compact text of a value. -/
def render (j : Json) : String :=
  String.ofList (chars j)

/-- The blanks at the start of a line. -/
def indent (depth : Nat) : List Char :=
  '\n' :: List.replicate (2 * depth) ' '

mutual

/-- The characters of the text of a value that begins at the given depth and is spread over
lines. -/
def spreadChars (depth : Nat) : Json → List Char
  | .arr (x :: xs) =>
    '[' :: (indent (depth + 1) ++ spreadChars (depth + 1) x ++ spreadItems depth xs)
  | .obj (f :: fs) =>
    '\x7b' :: (indent (depth + 1) ++ quoteChars f.1 ++ ':' :: ' ' ::
      (spreadChars (depth + 1) f.2 ++ spreadFields depth fs))
  | .null => chars .null
  | .bool b => chars (.bool b)
  | .num n => n.chars
  | .str s => quoteChars s
  | .arr [] => ['[', ']']
  | .obj [] => ['\x7b', '\x7d']

/-- The further items of an array and its end. -/
def spreadItems (depth : Nat) : List Json → List Char
  | [] => indent depth ++ [']']
  | x :: xs => ',' :: (indent (depth + 1) ++ spreadChars (depth + 1) x ++ spreadItems depth xs)

/-- The further fields of an object and its end. -/
def spreadFields (depth : Nat) : List (String × Json) → List Char
  | [] => indent depth ++ ['\x7d']
  | f :: fs =>
    ',' :: (indent (depth + 1) ++ quoteChars f.1 ++ ':' :: ' ' ::
      (spreadChars (depth + 1) f.2 ++ spreadFields depth fs))

end

/-- The text of a value, spread over lines. -/
def renderSpread (j : Json) : String :=
  String.ofList (spreadChars 0 j)

/-- The fields in the order of their names; fields with one name keep their order. -/
def byName {α : Type} (fs : List (String × α)) : List (String × α) :=
  fs.mergeSort fun a b => decide (a.1 ≤ b.1)

mutual

/-- The value with the fields of all its objects in the order of their names. -/
def sorted : Json → Json
  | .arr xs => .arr (sortedItems xs)
  | .obj fs => .obj (byName (sortedFields fs))
  | j => j

/-- The items with their fields in order. -/
def sortedItems : List Json → List Json
  | [] => []
  | x :: xs => sorted x :: sortedItems xs

/-- The fields with the fields of their values in order. -/
def sortedFields : List (String × Json) → List (String × Json)
  | [] => []
  | f :: fs => (f.1, sorted f.2) :: sortedFields fs

end

end ClusterFeed.Json
