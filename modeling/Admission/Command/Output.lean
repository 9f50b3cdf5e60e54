/-
# Output of the command

Decisions are printed as JSON objects, one a line.  Errors are printed with their causes.
-/
import Admission.Json
import Admission.Router

namespace Admission.Command

/-- Why the default group serves a request, as a JSON value. -/
def fallbackJson : Option Router.Fallback → Json
  | none => .null
  | some (.unknownGroup name) => .obj [("unknown_group", .str name)]
  | some (.evaluationFailed reason) => .obj [("evaluation_failed", .str reason)]

/-- A decision as a JSON value; the delay is in milliseconds, in 64 bits. -/
def decisionJson (d : Router.Decision) : Json :=
  .obj
    [("delay_ms", .int (d.reservation.delay.millis % UInt64.size : Nat)),
      ("event_id", .str d.event), ("fallback", fallbackJson d.fallback), ("group", .str d.group),
      ("ok", .bool d.reservation.isOk), ("retry_after", .int d.reservation.retryAfter),
      ("tokens", .int d.reservation.tokens)]

/-- A text whose lines after the first one are indented. -/
def indented (indent : String) (text : String) : String :=
  String.ofList (text.toList.flatMap fun c => if c = '\n' then '\n' :: indent.toList else [c])

/-- A cause with its number. -/
def numberedCause (number : Nat) (cause : String) : String :=
  let digits := toString number
  "".pushn ' ' (5 - digits.length) ++ digits ++ ": " ++ indented "       " cause

/-- An error with its causes.  A single cause has no number. -/
def errorReport (message : String) (causes : List String) : String :=
  match causes with
  | [] => "Error: " ++ message
  | [cause] => "Error: " ++ message ++ "\n\nCaused by:\n    " ++ indented "    " cause
  | causes =>
    "Error: " ++ message ++ "\n\nCaused by:\n" ++
      String.intercalate "\n" (causes.mapIdx numberedCause)

end Admission.Command
