/-
# Configurations as JSON values

Writes a configuration as a JSON value, and reads one back without any conversion: numbers must
be numbers and texts must be texts.
-/
import Admission.Config.Format
import Admission.Json

namespace Admission.Config

open Settings (Fault Found)

/-! ## Reading -/

/-- What a JSON value is, for messages. -/
def foundInJson : Json → Found
  | .null => .null
  | .bool b => .bool b
  | .int n => .int n
  | .float x => .jsonFloat x
  | .str s => .text s
  | .arr _ => .sequence
  | .obj _ => .map

/-- Reads a whole number. -/
def wordOfJson : Json → Except Fault UInt64
  | .int n => if 0 ≤ n then .ok (UInt64.ofNat n.toNat) else .error (.outOfRange n "u64")
  | v => .error (.mismatch (foundInJson v) "u64")

/-- Reads a text. -/
def textOfJson : Json → Except Fault String
  | .str s => .ok s
  | v => .error (.mismatch (foundInJson v) "a string")

/-- The parts of a JSON value. -/
def shapeOfJson : Json → Shape Json
  | .arr items => .list items
  | .obj members => .table members
  | _ => .single

/-- How JSON values are read. -/
def jsonFormat : Format Json := ⟨wordOfJson, textOfJson, foundInJson, shapeOfJson, true⟩

/-- The configuration that a JSON value holds. -/
def ofJson (v : Json) : Except Fault Config :=
  jsonFormat.config v

/-! ## Writing -/

/-- The members that describe parameters. -/
def Params.members (p : Params) : List (String × Json) :=
  [("quota", .int p.quota.toNat), ("interval", .str p.interval.format),
    ("event_expression", .str p.eventExpression)]

/-- A group as a JSON value. -/
def Group.toJson (g : Group) : Json :=
  .obj (("name", .str g.name) :: g.params.members)

/-- A rule as a JSON value. -/
def Rule.toJson (r : Rule) : Json :=
  .obj [("api_pattern", .str r.apiPattern), ("group_expression", .str r.groupExpression)]

/-- A configuration as a JSON value.  Without a store timeout there is no member for it. -/
def toJson (c : Config) : Json :=
  .obj ([("default", .obj c.default.members), ("groups", .arr (c.groups.map Group.toJson)),
      ("match", .arr (c.rules.map Rule.toJson))] ++
    c.storeTimeout.toList.map fun d => ("store_timeout", .str d.format))

end Admission.Config
