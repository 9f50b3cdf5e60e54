/-
# Conversion of settings

Settings come from files and from the environment, where a number may be written as a text and
a truth value as a number.  So a value is converted to what is asked for wherever that makes
sense.
-/
import Admission.Settings
import Admission.Text.Lowercase

namespace Admission.Settings

open Text

/-- The fault that a value is not what was expected. -/
def unconvertible (s : Settings) (expected : String) : Fault :=
  .unconvertible s.found expected none s.origin

/-- The truth value of a word in lower case. -/
def wordTruth? : String → Option Bool
  | "true" | "on" | "yes" => some true
  | "false" | "off" | "no" => some false
  | _ => none

/-- The truth value of a text in lower case: a word or a digit. -/
def truth? : String → Option Bool
  | "1" => some true
  | "0" => some false
  | s => wordTruth? s

/-- A value as a truth value.  Messages show a text in lower case. -/
def toBool (s : Settings) : Except Fault Bool :=
  match s with
  | .leaf _ (.bool b) => .ok b
  | .leaf _ (.int n) => .ok (n != 0)
  | .leaf _ (.float x) => .ok x.isNonzero
  | .leaf origin (.text t) =>
    match truth? (lowercase t) with
    | some b => .ok b
    | none => .error (.unconvertible (.text (lowercase t)) "a boolean" none origin)
  | _ => .error (s.unconvertible "a boolean")

/-- A value as a number of 64 bits without a sign. -/
def toWord (s : Settings) : Except Fault UInt64 :=
  match s with
  | .leaf _ (.bool b) => .ok (if b then 1 else 0)
  | .leaf _ (.int n) =>
    if 0 ≤ n then .ok (UInt64.ofNat n.toNat)
    else .error (s.unconvertible "an unsigned 64 bit or less integer")
  | .leaf _ (.float x) => .ok x.toWord
  | .leaf _ (.text t) =>
    match wordTruth? (lowercase t) with
    | some b => .ok (if b then 1 else 0)
    | none =>
      match word? t.toList with
      | some n => .ok n
      | none => .error (s.unconvertible "an integer")
  | _ => .error (s.unconvertible "an integer")

/-- A value as a text. -/
def toText (s : Settings) : Except Fault String :=
  match s with
  | .leaf _ (.bool b) => .ok (toString b)
  | .leaf _ (.int n) => .ok (toString n)
  | .leaf _ (.float x) => .ok x.render
  | .leaf _ (.text t) => .ok t
  | _ => .error (s.unconvertible "a string")

/-- The keys along a dotted name. -/
def keyPath (name : String) : List String :=
  (splitOn '.' name.toList).map String.ofList

/-- Looks a value up under a dotted name and converts it.  A value that is not there is no
fault. -/
def lookup (convert : Settings → Except Fault α) (s : Settings) (name : String) :
    Except Fault (Option α) :=
  match s.get? (keyPath name) with
  | none => .ok none
  | some value =>
    match convert value with
    | .ok a => .ok (some a)
    | .error fault => .error (fault.forKey name)

end Admission.Settings
