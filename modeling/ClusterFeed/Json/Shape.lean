import ClusterFeed.Json.Members

/-!
# Shapes of values

What is only checked, and not used, is described by a shape. A shape can refer to a record that
contains it, so that values of any depth have a shape of finite size. Records are open ones: unknown
fields are passed over, and a field without value counts as missing.
-/

namespace ClusterFeed.Json

/-- What a value must look like. -/
inductive Shape where
  /-- A value that a decoder reads. -/
  | leaf (d : Decoder Unit)
  /-- An array of values of one shape. -/
  | list (item : Shape)
  /-- An object of values of one shape, under any names. -/
  | map (value : Shape)
  /-- A record with the given fields, any of which may be missing. -/
  | record (fields : List (String × Shape))
  /-- The record that is being described. -/
  | itself
  /-- A value of the shape, or what else the decoder reads. -/
  | orLeaf (s : Shape) (d : Decoder Unit)
  /-- A value of the shape, or an array of values of the other one. -/
  | orList (s item : Shape)
  deriving Inhabited

namespace Shape

/-- A value that a decoder reads, whatever it is. -/
def ofDecoder {α : Type} (d : Decoder α) : Shape := leaf fun t => (d t).map fun _ => ()

/-- A text. -/
def text : Shape := ofDecoder Decode.text

/-- A truth value. -/
def flag : Shape := ofDecoder Decode.bool

/-- Any value that can be kept. -/
def any : Shape := leaf Decode.keepable

/-- Several texts. -/
def texts : Shape := list text

/-- A number of any kind. -/
def number : Shape := leaf fun t =>
  match t with
  | .num (some _) => some ()
  | _ => none

/-- Fields of one shape. -/
def all (s : Shape) (names : List String) : List (String × Shape) := names.map (·, s)

/-- What is demanded of the fields of an object. -/
inductive Contents where
  /-- Fields under the given names have the given shapes. -/
  | fields (shapes : List (String × Shape))
  /-- All fields have the shape. -/
  | values (s : Shape)

/-- What a shape demands of the fields of an object, if it is looked into; `itself` stands for the
given fields. -/
def ofObject? (top : List (String × Shape)) : Shape → Option Contents
  | map v => some (.values v)
  | record fs => some (.fields fs)
  | itself => some (.fields top)
  | orLeaf s _ => ofObject? top s
  | orList s _ => ofObject? top s
  | leaf _ => none
  | list _ => none

/-- What a shape demands of the items of an array, if it is looked into. -/
def ofItems? : Shape → Option Shape
  | list i => some i
  | orLeaf s _ => ofItems? s
  | orList _ i => some i
  | _ => none

/-- Whether a value has a shape as a whole. -/
def takes : Shape → Tree → Bool
  | leaf d, t => (d t).isSome
  | orLeaf s d, t => (d t).isSome || takes s t
  | orList s _, t => takes s t
  | _, _ => false

mutual

/-- Whether a value has a shape; `itself` stands for the record with the given fields. -/
def fits (top : List (String × Shape)) (s : Shape) : Tree → Bool
  | .obj fs =>
    match s.ofObject? top with
    | some (.fields shapes) => fitFields top shapes fs
    | some (.values v) => fitValues top v fs
    | none => s.takes (.obj fs)
  | .arr xs =>
    match s.ofItems? with
    | some i => fitItems top i xs
    | none => s.takes (.arr xs)
  | t => s.takes t

/-- Whether all items have a shape. -/
def fitItems (top : List (String × Shape)) (s : Shape) : List Tree → Bool
  | [] => true
  | x :: xs => fits top s x && fitItems top s xs

/-- Whether all values have a shape, and all names denote characters. -/
def fitValues (top : List (String × Shape)) (s : Shape) : List (Option String × Tree) → Bool
  | [] => true
  | (k, v) :: fs => k.isSome && fits top s v && fitValues top s fs

/-- Whether all known fields have their shapes or no value, and all names denote characters. -/
def fitFields (top shapes : List (String × Shape)) : List (Option String × Tree) → Bool
  | [] => true
  | (k, v) :: fs =>
    (match k with
      | none => false
      | some name =>
        match shapes.lookup name, v with
        | none, _ => true
        | some _, .null => true
        | some s, v => fits top s v) && fitFields top shapes fs

end

/-- Reads a value of a shape. -/
def decoder (s : Shape) (top : List (String × Shape)) : Decoder Unit := fun t =>
  if s.fits top t then some () else none

end Shape

end ClusterFeed.Json
