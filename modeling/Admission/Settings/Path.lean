/-
# Paths of settings

The name of a setting may lead through tables and lists: keys follow points and places in lists
stand in brackets.  Places count from zero, or back from the end if they are negative.
-/
import Admission.Text.Blank
import Admission.Text.Numeral

namespace Admission.Settings

open Text

/-- A step of a path. -/
inductive Step where
  /-- To the entry of a table. -/
  | key (name : String)
  /-- To an item of a list. -/
  | place (n : Int)
deriving DecidableEq, Repr

namespace Path

/-- The characters of keys in a path. -/
def isKeyChar (c : Char) : Bool :=
  c.isAlphanum || c == ' ' || c == '_' || c == '-'

/-- Reads the key that a text starts with. -/
def readKey? (cs : List Char) : Option (Step × List Char) :=
  match cs.span isKeyChar with
  | ([], _) => none
  | (name, rest) => some (.key (String.ofList name), rest)

/-- The place that is written in brackets; it has a minus sign if it counts from the end. -/
def place? (cs : List Char) : Option Int :=
  let inner := strip isGap cs
  if inner.head? = some '+' then none else smallInteger? inner

/-- Reads the steps after the first one.  Each takes at least two characters. -/
def readSteps? : Nat → List Char → Option (List Step)
  | _, [] => some []
  | fuel + 1, '.' :: cs =>
    match readKey? cs with
    | some (step, rest) => (readSteps? fuel rest).map (step :: ·)
    | none => none
  | fuel + 1, '[' :: cs =>
    match cutAtFirst (· == ']') cs with
    | some (inside, rest) =>
      match place? inside with
      | some n => (readSteps? fuel rest).map (.place n :: ·)
      | none => none
    | none => none
  | _, _ => none

/-- Reads a path.  It starts with a key. -/
def read? (name : String) : Option (List Step) :=
  match readKey? name.toList with
  | some (step, rest) => (readSteps? rest.length rest).map (step :: ·)
  | none => none

/-- The path that a name at the root stands for; a name that is no path is one key. -/
def ofName (name : String) : List Step :=
  (read? name).getD [.key name]

end Path

end Admission.Settings
