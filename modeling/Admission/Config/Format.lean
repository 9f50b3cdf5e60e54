/-
# Reading configurations from values

Groups, rules and whole configurations are records.  A record is written as a table of its
fields, or as a list of them in their order; fields that have a usual value may be left out.
Settings and JSON values are read in the same way.  They differ only in how single values are
converted and in whether a list may be too long.
-/
import Admission.Config
import Admission.Duration.Text

namespace Admission.Config

open Settings (Fault Found)

/-- The parts of a value. -/
inductive Shape (V : Type) where
  /-- It has none. -/
  | single
  /-- The items of a list. -/
  | list (items : List V)
  /-- The entries of a table. -/
  | table (entries : List (String × V))

/-- How values of type `V` are read. -/
structure Format (V : Type) where
  /-- Reads a number of 64 bits without a sign. -/
  word : V → Except Fault UInt64
  /-- Reads a text. -/
  text : V → Except Fault String
  /-- What a value is, for messages. -/
  found : V → Found
  /-- The parts of a value. -/
  shape : V → Shape V
  /-- A list of fields must not be too long. -/
  strict : Bool

/-- The values that are given for the fields of a record. -/
structure Fields (V : Type) where
  /-- The value of each field in order, if it is given. -/
  values : List (Option V)
  /-- The fault that a field is not given, by its place and name. -/
  missing : Nat → String → Fault
  /-- The fault that more values are given than there are fields. -/
  surplus : Option Fault

namespace Format

variable {V : Type}

/-- The fault that a value is not what was expected. -/
def mismatch (f : Format V) (v : V) (expected : String) : Fault :=
  .mismatch (f.found v) expected

/-- Reads a duration: a text, or a number of seconds. -/
def duration (f : Format V) (v : V) : Except Fault Duration :=
  match f.found v with
  | .text s =>
    match Duration.parse s with
    | some d => .ok d
    | none => .error (.badDuration s)
  | .int n => if 0 ≤ n then .ok (.ofSeconds n.toNat) else .error .negativeDuration
  | _ => .error (f.mismatch v "a duration such as \"1m\" or a number of seconds")

/-- The values given for the fields of a record. -/
def fields (f : Format V) (record : String) (names : List String) (v : V) :
    Except Fault (Fields V) :=
  match f.shape v with
  | .table entries => .ok ⟨names.map (entries.lookup ·), fun _ name => .missingField name, none⟩
  | .list items =>
    let expected := "struct " ++ record ++ " with " ++ toString names.length ++ " elements"
    let surplus := Fault.wrongLength items.length "fewer elements in array"
    .ok
      { values := (items.map some ++ List.replicate names.length none).take names.length
        missing := fun place _ => .wrongLength place expected
        surplus := if f.strict && names.length < items.length then some surplus else none }
  | .single => .error (f.mismatch v ("struct " ++ record))

/-- Reads the items of a list in order. -/
def items (read : V → Except Fault α) : List V → Except Fault (List α)
  | [] => .ok []
  | v :: vs =>
    match read v with
    | .error fault => .error fault
    | .ok a => (items read vs).map (a :: ·)

/-- Reads a list. -/
def list (f : Format V) (read : V → Except Fault α) (v : V) : Except Fault (List α) :=
  match f.shape v with
  | .list vs => items read vs
  | _ => .error (f.mismatch v "a sequence")

end Format

namespace Fields

variable {V : Type}

/-- The value of the field at a place, if it is given. -/
def at? (fs : Fields V) (place : Nat) (read : V → Except Fault α) : Except Fault (Option α) :=
  match (fs.values[place]?).join with
  | none => .ok none
  | some v => (read v).map some

/-- The value of a field that must be given. -/
def demand (fs : Fields V) (place : Nat) (name : String) : Option α → Except Fault α
  | some a => .ok a
  | none => .error (fs.missing place name)

/-- Refuses surplus values. -/
def finish (fs : Fields V) (a : α) : Except Fault α :=
  match fs.surplus with
  | none => .ok a
  | some fault => .error fault

end Fields

namespace Format

variable {V : Type}

/-- Reads the parameters of the default group. -/
def params (f : Format V) (v : V) : Except Fault Params := do
  let fs ← f.fields "RatelimitParams" ["quota", "interval", "event_expression"] v
  let quota ← fs.at? 0 f.word
  let interval ← fs.at? 1 f.duration
  let expression ← fs.at? 2 f.text
  fs.finish
    ⟨quota.getD Params.standard.quota, interval.getD Params.standard.interval,
      expression.getD Params.standard.eventExpression⟩

/-- Reads a named group. -/
def group (f : Format V) (v : V) : Except Fault Group := do
  let fs ← f.fields "RatelimitGroup" ["name", "quota", "interval", "event_expression"] v
  let name ← fs.at? 0 f.text
  let quota ← fs.at? 1 f.word
  let interval ← fs.at? 2 f.duration
  let expression ← fs.at? 3 f.text
  let name ← fs.demand 0 "name" name
  fs.finish
    ⟨name, ⟨quota.getD Params.standard.quota, interval.getD Params.standard.interval,
      expression.getD Params.standard.eventExpression⟩⟩

/-- Reads a match rule. -/
def rule (f : Format V) (v : V) : Except Fault Rule := do
  let fs ← f.fields "MatchExpression" ["api_pattern", "group_expression"] v
  let pattern ← fs.at? 0 f.text
  let expression ← fs.at? 1 f.text
  let pattern ← fs.demand 0 "api_pattern" pattern
  let expression ← fs.demand 1 "group_expression" expression
  fs.finish ⟨pattern, expression⟩

/-- Reads a configuration. -/
def config (f : Format V) (v : V) : Except Fault Config := do
  let fs ← f.fields "RatelimitConfig" ["default", "groups", "match", "store_timeout"] v
  let default ← fs.at? 0 f.params
  let groups ← fs.at? 1 (f.list f.group)
  let rules ← fs.at? 2 (f.list f.rule)
  let timeout ← fs.at? 3 f.duration
  fs.finish ⟨default.getD .standard, groups.getD [], rules.getD [], timeout⟩

end Format

end Admission.Config
