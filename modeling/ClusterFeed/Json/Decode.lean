import ClusterFeed.Json.Tree
import Std.Data.ExtTreeMap

/-!
# Reading typed values

A decoder reads a value of one type from a tree, or refuses it. Records are read by their field
names: an unknown field is passed over unread, a known one that comes twice is refused. A record may
also be an array of its fields in order. Which fields may be missing depends on the field, and for
an array that ends early also on how the field is declared.
-/

namespace ClusterFeed

/-- A map whose keys are texts, in the order of the texts. -/
abbrev TextMap (α : Type) := Std.ExtTreeMap String α

/-- A map of texts as JSON. -/
def TextMap.toJson (m : TextMap String) : Json :=
  .obj (m.toList.map fun e => (e.1, .str e.2))

namespace Json

/-- Reads a value of a type from a tree. -/
abbrev Decoder (α : Type) := Tree → Option α

namespace Decode

/-- A text. -/
def text : Decoder String
  | .text s => s
  | _ => none

/-- A truth value. -/
def bool : Decoder Bool
  | .bool b => some b
  | _ => none

/-- An integer between the given bounds. -/
def intBetween (low high : Int) : Decoder Int
  | .num n => (n.bind Number.toInt?).bind fun i => if low ≤ i ∧ i ≤ high then some i else none
  | _ => none

/-- A natural number of 64 bits. -/
def nat64 : Decoder Nat := fun t =>
  (intBetween 0 18446744073709551615 t).map Int.toNat

/-- An integer of 64 bits. -/
def int64 : Decoder Int :=
  intBetween (-9223372036854775808) 9223372036854775807

/-- An integer of 32 bits. -/
def int32 : Decoder Int :=
  intBetween (-2147483648) 2147483647

/-- A value that may be absent. -/
def option {α : Type} (d : Decoder α) : Decoder (Option α)
  | .null => some none
  | t => (d t).map some

/-- Any value, passed over. -/
def ignored : Decoder Unit := fun _ => some ()

/-- Any value, kept whole. -/
def whole : Decoder Json := Tree.toJson?

/-- Any value that could be kept whole. -/
def keepable : Decoder Unit := fun t => (whole t).map fun _ => ()

/-- The items of an array. -/
def list {α : Type} (d : Decoder α) : Decoder (List α)
  | .arr xs => xs.mapM d
  | _ => none

/-- The fields of an object with any names. -/
def entries {α : Type} (d : Decoder α) : Decoder (List (String × α))
  | .obj fs => fs.mapM fun f => do return (← f.1, ← d f.2)
  | _ => none

/-- The fields of an object as a map; of fields with one name the last counts. -/
def map {α : Type} (d : Decoder α) : Decoder (TextMap α) := fun t =>
  (entries d t).map fun es => es.foldl (fun m e => m.insert e.1 e.2) ∅

/-- One of several names, written as a text or as the name of a field without value. -/
def oneOf {α : Type} (names : List (String × α)) : Decoder α
  | .text (some s) => names.lookup s
  | .obj [(some s, .null)] => names.lookup s
  | _ => none

end Decode

/-- What a record holds at the place of one of its fields. -/
inductive Slot where
  /-- A value. -/
  | given (t : Tree)
  /-- No field of that name. -/
  | absent
  /-- The array of fields has ended. -/
  | cut
  deriving Inhabited

namespace Slot

/-- A field that must be there. -/
def required {α : Type} (d : Decoder α) : Slot → Option α
  | .given t => d t
  | _ => none

/-- A field with a value of its own for when it is missing. -/
def orElse {α : Type} (dflt : α) (d : Decoder α) : Slot → Option α
  | .given t => d t
  | _ => some dflt

/-- A field that may be missing or without value, also at the end of an array. -/
def optional {α : Type} (d : Decoder α) : Slot → Option (Option α) :=
  orElse none (Decode.option d)

/-- A field that may be missing or without value, but has its place in an array. -/
def nullable {α : Type} (d : Decoder α) : Slot → Option (Option α)
  | .given t => Decode.option d t
  | .absent => some none
  | .cut => none

end Slot

/-- The value of a name among fields. -/
def slotOf (fs : List (String × Tree)) (name : String) : Slot :=
  match fs.lookup name with
  | some t => .given t
  | none => .absent

/-- Whether no name of the record comes twice. -/
def noneTwice (names : List String) (fs : List (String × Tree)) : Bool :=
  names.all fun n => fs.countP (·.1 == n) ≤ 1

/-- The slots of a record with the given field names. All names of an object must denote
characters, so that it is known which fields they are. -/
def record? (names : List String) : Tree → Option (List Slot)
  | .obj fs => do
    let fs ← fs.mapM fun f => f.1.map (·, f.2)
    if noneTwice names fs then some (names.map (slotOf fs)) else none
  | .arr xs =>
    if xs.length ≤ names.length then
      some (xs.map .given ++ List.replicate (names.length - xs.length) .cut)
    else none
  | _ => none

/-- The slots of a record that must be an object and keeps whatever else it holds. -/
def keeping? (names : List String) : Tree → Option (List Slot)
  | .obj fs => do
    let _ ← fs.mapM fun f => if f.1.any names.contains then some () else Decode.keepable f.2
    record? names (.obj fs)
  | _ => none

/-- Reads the text of a value of a type. -/
def Decoder.read? {α : Type} (d : Decoder α) (us : List Text.Unit8) : Option α :=
  (Tree.parse? us).bind d

end Json

end ClusterFeed
