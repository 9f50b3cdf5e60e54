/-
# Settings

Settings are trees of tables, lists and single values.  Every value remembers the file or the
place that it comes from, for the messages about it.
-/
import Admission.Json
import Admission.Settings.Fault

namespace Admission

namespace Settings

/-- A single value of settings. -/
inductive Leaf where
  /-- No value. -/
  | null
  /-- A truth value. -/
  | bool (b : Bool)
  /-- A whole number that fits 64 bits with a sign. -/
  | int (n : Int)
  /-- Any other number. -/
  | float (x : Binary64.Signed)
  /-- A text. -/
  | text (s : String)
deriving DecidableEq, Repr

end Settings

/-- A tree of settings. -/
inductive Settings where
  /-- A single value. -/
  | leaf (origin : Option String) (value : Settings.Leaf)
  /-- A list. -/
  | list (origin : Option String) (items : List Settings)
  /-- A table.  Keys are different from one another. -/
  | table (origin : Option String) (entries : List (String × Settings))
deriving Repr, Inhabited

namespace Settings

/-- The empty table. -/
def empty : Settings := .table none []

/-- Where a value comes from. -/
def origin : Settings → Option String
  | .leaf origin _ => origin
  | .list origin _ => origin
  | .table origin _ => origin

/-- The entries of a table; a value that is no table has none. -/
def entries : Settings → List (String × Settings)
  | .table _ entries => entries
  | _ => []

/-- The value at the end of a path of keys.  Only tables lead further. -/
def get? : List String → Settings → Option Settings
  | [], s => some s
  | key :: path, s => (s.entries.lookup key).bind (get? path)

/-- What a value is, for messages. -/
def found : Settings → Found
  | .leaf _ .null => .unit
  | .leaf _ (.bool b) => .bool b
  | .leaf _ (.int n) => .int n
  | .leaf _ (.float x) => .float x
  | .leaf _ (.text s) => .text s
  | .list _ _ => .sequence
  | .table _ _ => .map

/-! ## Values of JSON texts -/

mutual

/-- The settings in a JSON value. -/
def ofJson (origin : Option String) : Json → Settings
  | .null => .leaf origin .null
  | .bool b => .leaf origin (.bool b)
  | .int n =>
    .leaf origin (if Text.isSmall n then .int n else .float (.finite (n < 0) (.ofNat n.natAbs)))
  | .float x => .leaf origin (.float x)
  | .str s => .leaf origin (.text s)
  | .arr items => .list origin (ofItems origin items)
  | .obj members => .table origin (ofMembers origin members)

/-- The settings in the items of an array. -/
def ofItems (origin : Option String) : List Json → List Settings
  | [] => []
  | item :: items => ofJson origin item :: ofItems origin items

/-- The settings in the members of an object. -/
def ofMembers (origin : Option String) : List (String × Json) → List (String × Settings)
  | [] => []
  | (key, value) :: members => (key, ofJson origin value) :: ofMembers origin members

end

end Settings

end Admission
