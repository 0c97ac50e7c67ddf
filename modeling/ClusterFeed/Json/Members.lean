import ClusterFeed.Json.Decode

/-!
# Open records

Objects in which every field may be missing. Unknown fields are passed over. A field without value
counts as missing, and of a field that comes more than once the last one counts; but every value
that is given must be of the field's type.
-/

namespace ClusterFeed.Json

/-- The fields of an object, all of whose names must denote characters. -/
def members? : Tree → Option (List (String × Tree))
  | .obj fs => fs.mapM fun f => f.1.map (·, f.2)
  | _ => none

/-- The values that are given under a name. -/
def given (fs : List (String × Tree)) (name : String) : List Tree :=
  (fs.filter (·.1 == name)).map (·.2)

/-- The value of a field, if it is there. -/
def member? {α : Type} (fs : List (String × Tree)) (name : String) (d : Decoder α) :
    Option (Option α) :=
  (given fs name).foldlM (fun _ t => Decode.option d t) none

/-- The value of a field, or another one if it is missing. -/
def memberOr {α : Type} (dflt : α) (fs : List (String × Tree)) (name : String) (d : Decoder α) :
    Option α :=
  (member? fs name d).map (·.getD dflt)

/-- Whether a field is missing or has the given text as its value. -/
def memberIs (fs : List (String × Tree)) (name value : String) : Bool :=
  (given fs name).all fun t => match t with
    | .text (some s) => s == value
    | _ => false

end ClusterFeed.Json
