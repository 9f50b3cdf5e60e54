/-
# Faults of settings

What can be wrong with the values of settings, as they are looked up and converted.
-/
import Admission.Binary64.Signed
import Admission.Text.Quoted

namespace Admission.Settings

/-- What was found where something else was expected. -/
inductive Found where
  /-- The null value of a JSON text. -/
  | null
  /-- The null value of a setting. -/
  | unit
  /-- A truth value. -/
  | bool (b : Bool)
  /-- A whole number. -/
  | int (n : Int)
  /-- Any other number of a setting. -/
  | float (x : Binary64.Signed)
  /-- Any other number of a JSON text. -/
  | jsonFloat (x : Binary64.Signed)
  /-- A text. -/
  | text (s : String)
  /-- A list. -/
  | sequence
  /-- A table. -/
  | map
deriving DecidableEq, Repr

/-- The wording where a value has the wrong form. -/
def Found.describe : Found → String
  | .null => "null"
  | .unit => "unit value"
  | .bool b => "boolean `" ++ toString b ++ "`"
  | .int n => "integer `" ++ toString n ++ "`"
  | .float x => "floating point `" ++ x.renderWithPoint ++ "`"
  | .jsonFloat x => "floating point `" ++ x.renderCompact ++ "`"
  | .text s => "string " ++ Text.quoted s
  | .sequence => "sequence"
  | .map => "map"

/-- The wording where a value cannot be converted. -/
def Found.describeConverted : Found → String
  | .int n => "64-bit integer `" ++ toString n ++ "`"
  | .float x => "floating point `" ++ x.render ++ "`"
  | found => found.describe

/-- A fault of settings. -/
inductive Fault where
  /-- A value cannot be converted.  It was looked up under `key` and comes from `origin`. -/
  | unconvertible (found : Found) (expected : String) (key origin : Option String)
  /-- A value has the wrong form. -/
  | mismatch (found : Found) (expected : String)
  /-- A whole number is out of range. -/
  | outOfRange (n : Int) (expected : String)
  /-- A record lacks a field. -/
  | missingField (name : String)
  /-- A list has the wrong number of items. -/
  | wrongLength (length : Nat) (expected : String)
  /-- A duration is negative. -/
  | negativeDuration
  /-- A text is no duration. -/
  | badDuration (text : String)
  /-- The text of a file cannot be read. -/
  | unreadable
  /-- The value that a file holds is no table. -/
  | wrongRoot (found : Found) (file : Option String)
  /-- Any other fault. -/
  | other (text : String)
deriving DecidableEq, Repr

/-- The wording of a fault.  A file with a wrong value is named twice: as the place of the value,
and as the file that was read. -/
def Fault.message : Fault → String
  | .unconvertible found expected key origin =>
    "invalid type: " ++ found.describeConverted ++ ", expected " ++ expected ++
      key.elim "" (fun k => " for key `" ++ k ++ "`") ++ origin.elim "" (fun o => " in " ++ o)
  | .mismatch found expected => "invalid type: " ++ found.describe ++ ", expected " ++ expected
  | .outOfRange n expected =>
    "invalid value: " ++ (Found.int n).describe ++ ", expected " ++ expected
  | .missingField name => "missing field `" ++ name ++ "`"
  | .wrongLength length expected =>
    "invalid length " ++ toString length ++ ", expected " ++ expected
  | .negativeDuration => "negative duration"
  | .badDuration text => "invalid duration \"" ++ text ++ "\""
  | .unreadable => "the file cannot be read"
  | .wrongRoot found file =>
    let place := file.elim "" (" in " ++ ·)
    "invalid type: " ++ found.describeConverted ++ ", expected a map" ++ place ++ place
  | .other text => text

/-- A fault with the key that its value was looked up under. -/
def Fault.forKey (key : String) : Fault → Fault
  | .unconvertible found expected _ origin => .unconvertible found expected (some key) origin
  | fault => fault

end Admission.Settings
