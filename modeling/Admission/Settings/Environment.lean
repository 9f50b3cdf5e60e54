/-
# Settings in the environment

Variables whose names start with the marker of this program are a layer of settings.  Two
underscores in a name stand for the point between keys.
-/
import Admission.Settings
import Admission.Text.Case
import Admission.Text.Lowercase

namespace Admission.Settings.Environment

open Text

/-- What the names of the variables start with, in lower case. -/
def marker : String := "ratemux_"

/-- Where values of variables come from, for messages. -/
def origin : String := "the environment"

/-- A name with a point for each pair of underscores. -/
def withPoints : List Char → List Char
  | '_' :: '_' :: cs => '.' :: withPoints cs
  | c :: cs => c :: withPoints cs
  | [] => []

/-- The key that a variable is for, if its name starts with the marker. -/
def key? (name : String) : Option String :=
  (afterStart? marker.toList (lowercase name).toList).map fun rest =>
    String.ofList (withPoints rest)

/-- The value of a variable: a truth value, a number, or else a text. -/
def leaf (value : String) : Leaf :=
  match lower value with
  | "true" => .bool true
  | "false" => .bool false
  | _ =>
    match smallInteger? value.toList with
    | some n => .int n
    | none =>
      match Binary64.Signed.read? value.toList with
      | some x => .float x
      | none => .text value

/-- The layer of the given variables. -/
def layer (vars : List (String × String)) : Settings :=
  .table none (vars.filterMap fun (name, value) =>
    (key? name).map fun key => (key, .leaf (some origin) (leaf value)))

end Admission.Settings.Environment
