/-!
# JSON values

The values of JSON with texts that are made of characters. A number is kept as it is written, so
that copying a value changes nothing; the fields of an object keep their order.
-/

namespace ClusterFeed

/-- A number as it is written: its sign, its integer part, and the text of its fraction and
exponent, empty for an integer. -/
structure Json.Number where
  /-- Whether a minus sign comes first. -/
  negative : Bool
  /-- The integer part. -/
  whole : Nat
  /-- The fraction and the exponent as they are written. -/
  tail : String
  deriving DecidableEq, Repr, Inhabited

/-- A JSON value. -/
inductive Json where
  /-- The absent value. -/
  | null
  /-- A truth value. -/
  | bool (b : Bool)
  /-- A number. -/
  | num (n : Json.Number)
  /-- A text. -/
  | str (s : String)
  /-- An array. -/
  | arr (items : List Json)
  /-- An object with its fields in order. -/
  | obj (fields : List (String × Json))
  deriving Inhabited

namespace Json

/-- The number that writes a natural number. -/
def Number.ofNat (n : Nat) : Number := ⟨false, n, ""⟩

/-- The number that writes an integer. -/
def Number.ofInt : Int → Number
  | .ofNat n => ⟨false, n, ""⟩
  | .negSucc n => ⟨true, n + 1, ""⟩

/-- The integer that a number is written as. A number with a fraction or an exponent is written as
no integer, and neither is a negative zero. -/
def Number.toInt? (n : Number) : Option Int :=
  if n.tail = "" then
    if n.negative then (if n.whole = 0 then none else some (-(n.whole : Int))) else some n.whole
  else none

/-- The value of a natural number. -/
def nat (n : Nat) : Json := .num (.ofNat n)

/-- The value of an integer. -/
def int (n : Int) : Json := .num (.ofInt n)

/-- The texts as an array. -/
def texts (ss : List String) : Json := .arr (ss.map .str)

/-- A value that may be absent. -/
def orNull {α : Type} (f : α → Json) : Option α → Json
  | some a => f a
  | none => .null

/-- An optional field of an object: no field at all when there is no value. -/
def field? {α : Type} (name : String) (f : α → Json) : Option α → List (String × Json)
  | some a => [(name, f a)]
  | none => []

/-- The fields of an object, none for any other value. -/
def fields : Json → List (String × Json)
  | .obj fs => fs
  | _ => []

/-- The value of a field of an object. Of fields with one name the last counts. -/
def get? (j : Json) (name : String) : Option Json :=
  (j.fields.findRev? (·.1 == name)).map (·.2)

/-- The text that a value is. -/
def str? : Json → Option String
  | .str s => some s
  | _ => none

/-- The items of an array. -/
def arr? : Json → Option (List Json)
  | .arr xs => some xs
  | _ => none

/-- The text of a field, none when it is absent or no text. -/
def text? (j : Json) (name : String) : Option String :=
  (j.get? name).bind str?

/-- The object with one field set: a field of that name keeps its place, a new one comes last. -/
def set (fs : List (String × Json)) (name : String) (v : Json) : List (String × Json) :=
  if fs.any (·.1 == name) then fs.map fun f => if f.1 == name then (name, v) else f
  else fs ++ [(name, v)]

mutual

/-- The value with a function applied to all its texts, but not to the names of fields. -/
def mapTexts (f : String → String) : Json → Json
  | .str s => .str (f s)
  | .arr xs => .arr (mapTextItems f xs)
  | .obj fs => .obj (mapTextFields f fs)
  | j => j

/-- The items with a function applied to all their texts. -/
def mapTextItems (f : String → String) : List Json → List Json
  | [] => []
  | x :: xs => mapTexts f x :: mapTextItems f xs

/-- The fields with a function applied to all texts of their values. -/
def mapTextFields (f : String → String) : List (String × Json) → List (String × Json)
  | [] => []
  | x :: xs => (x.1, mapTexts f x.2) :: mapTextFields f xs

end

end Json

end ClusterFeed
