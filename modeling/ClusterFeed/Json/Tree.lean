import ClusterFeed.Json.Number

/-!
# Trees of JSON

The shape of a text in JSON, before it is known which parts of it will be read. A tree may hold
texts that denote no characters, numbers that are too great to be kept, and arrays and objects that
lie too deep to be looked into; only who reads such a part fails. Trees are built with an explicit
stack, so that nesting has no limit where nothing is read.
-/

namespace ClusterFeed.Json

/-- The shape of a text in JSON. -/
inductive Tree where
  /-- The absent value. -/
  | null
  /-- A truth value. -/
  | bool (b : Bool)
  /-- A number as it is kept; `none` when it cannot be. -/
  | num (n : Option Number)
  /-- A text; `none` when it denotes no characters. -/
  | text (s : Option String)
  /-- An array. -/
  | arr (items : List Tree)
  /-- An object with its fields in order. -/
  | obj (fields : List (Option String × Tree))
  /-- An array or object that lies too deep. -/
  | buried
  deriving Inhabited

/-- An array or object that is not closed yet; what it holds so far comes last first. -/
inductive Frame where
  /-- An array. -/
  | items (before : List Tree)
  /-- An object that waits for the value of a name. -/
  | fields (before : List (Option String × Tree)) (name : Option String)

/-- What must follow. -/
inductive Due where
  /-- A value. -/
  | value
  /-- A value, or the end of an empty array. -/
  | firstItem
  /-- A name, or the end of an empty object. -/
  | firstName
  /-- A name of the object that holds `before`. -/
  | name (before : List (Option String × Tree))
  /-- The separator of a name and its value. -/
  | colon (before : List (Option String × Tree)) (name : Option String)
  /-- A separator of items, or the end of the innermost array or object. -/
  | more
  /-- Nothing: the tree is complete. -/
  | nothing (t : Tree)

/-- At how many levels arrays and objects can be read. -/
def maxDepth : Nat := 127

/-- An array or object that has been closed, as it can be read inside of the given frames. -/
def reachable (t : Tree) (fs : List Frame) : Tree :=
  if (fs.drop (maxDepth - 1)).isEmpty then t else .buried

/-- Puts a complete value into the innermost frame. -/
def place (t : Tree) : List Frame → Due × List Frame
  | [] => (.nothing t, [])
  | .items before :: fs => (.more, .items (t :: before) :: fs)
  | .fields before name :: fs => (.more, .fields ((name, t) :: before) name :: fs)

/-- Closes an array or object. -/
def enclose (t : Tree) (fs : List Frame) : Due × List Frame :=
  place (reachable t fs) fs

/-- Takes a token where a value is due. -/
def open? (tk : Token) (fs : List Frame) : Option (Due × List Frame) :=
  match tk with
  | .null => some (place .null fs)
  | .bool b => some (place (.bool b) fs)
  | .num n => some (place (.num n.kept?) fs)
  | .text s => some (place (.text s) fs)
  | .openArr => some (.firstItem, .items [] :: fs)
  | .openObj => some (.firstName, fs)
  | _ => none

/-- Takes one token. -/
def take? (due : Due) (fs : List Frame) (tk : Token) : Option (Due × List Frame) :=
  match due, tk, fs with
  | .value, tk, fs => open? tk fs
  | .firstItem, .closeArr, .items [] :: fs => some (enclose (.arr []) fs)
  | .firstItem, tk, fs => open? tk fs
  | .firstName, .closeObj, fs => some (enclose (.obj []) fs)
  | .firstName, .text s, fs => some (.colon [] s, fs)
  | .name before, .text s, fs => some (.colon before s, fs)
  | .colon before s, .colon, fs => some (.value, .fields before s :: fs)
  | .more, .comma, .items before :: fs => some (.value, .items before :: fs)
  | .more, .closeArr, .items before :: fs => some (enclose (.arr before.reverse) fs)
  | .more, .comma, .fields before _ :: fs => some (.name before, fs)
  | .more, .closeObj, .fields before _ :: fs => some (enclose (.obj before.reverse) fs)
  | _, _, _ => none

/-- Takes the tokens one after the other. -/
def build? : Due → List Frame → List Token → Option (Due × List Frame)
  | due, fs, [] => some (due, fs)
  | due, fs, tk :: tks =>
    match take? due fs tk with
    | some (due, fs) => build? due fs tks
    | none => none

/-- The tree that is complete when nothing is due any longer. -/
def Due.tree? : Due → Option Tree
  | .nothing t => some t
  | _ => none

/-- The tree of a text in JSON: one value, with blanks around it at most. -/
def Tree.parse? (us : List Text.Unit8) : Option Tree := do
  (← build? .value [] (← tokens? us)).1.tree?

/-- Whether a text is the beginning of one in JSON, but not all of it. -/
def isCutShort (us : List Text.Unit8) : Bool :=
  match firstTokens? us with
  | none => false
  | some (tks, isOpen) =>
    match build? .value [] tks with
    | none => false
    | some (due, _) => isOpen || due.tree?.isNone

mutual

/-- The tree of a value. -/
def toTree : Json → Tree
  | .null => .null
  | .bool b => .bool b
  | .num n => .num (some n)
  | .str s => .text (some s)
  | .arr xs => .arr (toTrees xs)
  | .obj fs => .obj (toFieldTrees fs)

/-- The trees of values. -/
def toTrees : List Json → List Tree
  | [] => []
  | x :: xs => toTree x :: toTrees xs

/-- The trees of fields. -/
def toFieldTrees : List (String × Json) → List (Option String × Tree)
  | [] => []
  | (k, v) :: fs => (some k, toTree v) :: toFieldTrees fs

end

mutual

/-- The value of a tree, if all its texts denote characters, all its numbers can be kept and nothing
lies too deep. -/
def Tree.toJson? : Tree → Option Json
  | .null => some .null
  | .bool b => some (.bool b)
  | .num n => n.map .num
  | .text s => s.map .str
  | .arr xs => (Tree.toItems? xs).map .arr
  | .obj fs => (Tree.toFields? fs).map .obj
  | .buried => none

/-- The values of trees. -/
def Tree.toItems? : List Tree → Option (List Json)
  | [] => some []
  | x :: xs => do return (← Tree.toJson? x) :: (← Tree.toItems? xs)

/-- The fields of an object. -/
def Tree.toFields? : List (Option String × Tree) → Option (List (String × Json))
  | [] => some []
  | (k, v) :: fs => do
    let k ← k
    return (k, ← Tree.toJson? v) :: (← Tree.toFields? fs)

end

/-- The value that a text in JSON writes. -/
def parse? (s : String) : Option Json :=
  (Tree.parse? (Text.unitsOf s)).bind Tree.toJson?

end ClusterFeed.Json
