/-
# Configurations

The configuration of a router: the parameters of the default group, the named groups, the match
rules in order, and how long a round trip to the shared store may take.
-/
import Admission.Error

namespace Admission

namespace Config

/-- What limits a group, and the expression that tells its events apart. -/
structure Params where
  /-- The tokens of each interval. -/
  quota : UInt64
  /-- The window, or the time in which a bucket fills up. -/
  interval : Duration
  /-- The template of the event. -/
  eventExpression : String
deriving DecidableEq, Repr

/-- A named group. -/
structure Group where
  /-- Its name. -/
  name : String
  /-- Its parameters. -/
  params : Params
deriving DecidableEq, Repr

/-- A match rule. -/
structure Rule where
  /-- The pattern of the requests it is for. -/
  apiPattern : String
  /-- The template of the group that serves them. -/
  groupExpression : String
deriving DecidableEq, Repr

/-- The parameters of a group that sets none: 120 tokens a minute for each caller. -/
def Params.standard : Params :=
  ⟨120, .ofSeconds 60, "\x7b\x7bwith .Identity\x7d\x7d\x7b\x7b.Subject\x7d\x7d\x7b\x7bend\x7d\x7d"⟩

end Config

/-- A configuration. -/
structure Config where
  /-- The parameters of the default group. -/
  default : Config.Params
  /-- The named groups. -/
  groups : List Config.Group
  /-- The match rules, the first one first. -/
  rules : List Config.Rule
  /-- How long a round trip to the store may take. -/
  storeTimeout : Option Duration
deriving DecidableEq, Repr

namespace Config

/-- The name that stands for the default group. -/
def defaultName : String := "default"

/-- Checks the numbers of a group. -/
def Params.validate (p : Params) (group : String) : Except Error Unit :=
  if p.quota = 0 then .error (.config (.zeroQuota group))
  else if p.interval.nanos = 0 then .error (.config (.zeroInterval group))
  else .ok ()

/-- Checks groups in order, given the names of those before them. -/
def validateGroups (seen : List String) : List Group → Except Error Unit
  | [] => .ok ()
  | g :: groups =>
    if Text.trimmed g.name = "" then .error (.config .unnamedGroup)
    else if g.name = defaultName ∨ g.name ∈ seen then .error (.duplicateGroup g.name)
    else
      match g.params.validate g.name with
      | .error e => .error e
      | .ok () => validateGroups (g.name :: seen) groups

/-- Checks what a router relies on: positive numbers, and names that are neither blank nor
taken. -/
def validate (c : Config) : Except Error Unit :=
  match c.default.validate defaultName with
  | .error e => .error e
  | .ok () => validateGroups [] c.groups

end Config

end Admission
