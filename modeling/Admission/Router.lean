/-
# Routers

A router has a default group, named groups and match rules.  For each request the first rule
whose pattern matches picks a group, the event expression of that group picks a budget, and the
limiter of the group is asked for a token.  A rule that picks no registered group leaves the
request to the default group.

Routers are written for any kind of limiter `L`.  A limiter is a description only: what changes
as tokens are taken is the state that decisions pass along.
-/
import Admission.Config
import Admission.Pattern.Reading
import Admission.Request
import Admission.Reservation
import Admission.Template

namespace Admission

namespace Router

/-- A group. -/
structure Group (L : Type) where
  /-- Its name. -/
  name : String
  /-- What limits it. -/
  limiter : L
  /-- Tells its events apart. -/
  eventExpression : Template

/-- A match rule. -/
structure Rule where
  /-- The requests it is for. -/
  pattern : Pattern
  /-- Names the group that serves them. -/
  groupExpression : Template
deriving DecidableEq, Repr

/-- Why a rule left a request to the default group. -/
inductive Fallback where
  /-- There is no group of this name. -/
  | unknownGroup (name : String)
  /-- The group expression does not apply, for this reason. -/
  | evaluationFailed (reason : String)
deriving DecidableEq, Repr

/-- How often rules left requests to the default group.  Both numbers together go up by one at most
with each request, so no run that comes about is long enough for them to leave 64 bits. -/
structure Stats where
  /-- For want of a group. -/
  unknownGroup : Nat
  /-- Because the group expression does not apply. -/
  evaluationFailed : Nat
deriving DecidableEq, Repr

/-- The numbers after one more request. -/
def Stats.record (s : Stats) : Option Fallback → Stats
  | none => s
  | some (.unknownGroup _) => { s with unknownGroup := s.unknownGroup + 1 }
  | some (.evaluationFailed _) => { s with evaluationFailed := s.evaluationFailed + 1 }

/-- What was decided about a request. -/
structure Decision where
  /-- The name of the group that serves it. -/
  group : String
  /-- The event that its budget belongs to. -/
  event : String
  /-- The reservation from that budget. -/
  reservation : Reservation
  /-- Why the default group serves it, if a rule wanted otherwise. -/
  fallback : Option Fallback
deriving DecidableEq, Repr

/-- The event of requests whose event expression gives a blank text, so that they share one
budget. -/
def anonymousEvent : String := "@anonymous"

/-- Whether a name stands for the default group. -/
def isDefault (name : String) : Bool :=
  name == "" || name == Config.defaultName

end Router

/-- A router. -/
structure Router (L : Type) where
  /-- The group of requests that no other group serves. -/
  default : Router.Group L
  /-- The named groups, in the order of their registration. -/
  groups : List (Router.Group L)
  /-- The match rules, in the order of their registration. -/
  rules : List Router.Rule
  /-- How often rules failed to pick a group. -/
  stats : Router.Stats

namespace Router

variable {L σ : Type}

/-! ## Building -/

/-- Compiles an expression of a configuration. -/
def compile (expression : String) : Except Error Template :=
  (Template.compile expression).mapError .template

/-- A router with the default group only. -/
def make (limiter : L) (eventExpression : String) : Except Error (Router L) :=
  (compile eventExpression).map fun expression =>
    ⟨⟨Config.defaultName, limiter, expression⟩, [], [], ⟨0, 0⟩⟩

/-- The named group of this name. -/
def group? (r : Router L) (name : String) : Option (Group L) :=
  r.groups.find? (·.name == name)

/-- Whether a name stands for the default group or a registered one. -/
def knows (r : Router L) (name : String) : Bool :=
  isDefault name || (r.group? name).isSome

/-- Registers a named group. -/
def addGroup (r : Router L) (limiter : L) (name eventExpression : String) :
    Except Error (Router L) :=
  if r.knows name then .error (.duplicateGroup name)
  else
    (compile eventExpression).map fun expression =>
      { r with groups := r.groups ++ [⟨name, limiter, expression⟩] }

/-- Adds a match rule.  A group expression that is the same for all requests must name a known
group. -/
def addRule (r : Router L) (apiPattern groupExpression : String) : Except Error (Router L) :=
  match (Pattern.read apiPattern).mapError Error.pattern with
  | .error e => .error e
  | .ok pattern =>
    match compile groupExpression with
    | .error e => .error e
    | .ok expression =>
      let added := { r with rules := r.rules ++ [⟨pattern, expression⟩] }
      match expression.constant with
      | none => .ok added
      | some text =>
        let name := Text.trimmed text
        if r.knows name then .ok added else .error (.unknownGroup name)

/-- Registers the groups of a configuration, in order. -/
def addGroups (limiter : Option String → Config.Params → L) (r : Router L) :
    List Config.Group → Except Error (Router L) :=
  List.foldlM (fun r g =>
    r.addGroup (limiter (some g.name) g.params) g.name g.params.eventExpression) r

/-- Adds the rules of a configuration, in order. -/
def addRules (r : Router L) : List Config.Rule → Except Error (Router L) :=
  List.foldlM (fun r rule => r.addRule rule.apiPattern rule.groupExpression) r

/-- The router of a configuration.  `limiter` gives the limiter of each group by its name, that
of the default group without one. -/
def ofConfig (limiter : Option String → Config.Params → L) (c : Config) :
    Except Error (Router L) := do
  c.validate
  let r ← make (limiter none c.default) c.default.eventExpression
  let r ← r.addGroups limiter c.groups
  r.addRules c.rules

/-- The groups for which a limiter is asked when groups are registered.  Each is asked for just
before it is registered, so that nothing is asked for after the first that cannot be. -/
def groupsAsked (r : Router Unit) : List Config.Group → List Config.Group
  | [] => []
  | g :: groups =>
    g ::
      match r.addGroup () g.name g.params.eventExpression with
      | .error _ => []
      | .ok r => r.groupsAsked groups

/-- What limiters are asked for when the router of a configuration is built, in order. -/
def limitersAsked (c : Config) : List (Option String × Config.Params) :=
  match c.validate with
  | .error _ => []
  | .ok () =>
    (none, c.default) ::
      match make () c.default.eventExpression with
      | .error _ => []
      | .ok r => (r.groupsAsked c.groups).map fun g => (some g.name, g.params)

/-- The names of the registered groups. -/
def groupNames (r : Router L) : List String :=
  r.groups.map (·.name)

/-! ## Deciding -/

/-- The first rule that matches a request. -/
def rule? (r : Router L) (request : Request) : Option Rule :=
  r.rules.find? fun rule => rule.pattern.matches? request.method request.path

/-- The group that serves a request, and why it is the default group if a rule wanted
otherwise. -/
def select (r : Router L) (request : Request) : Group L × Option Fallback :=
  match r.rule? request with
  | none => (r.default, none)
  | some rule =>
    match rule.groupExpression.execute request with
    | .error e => (r.default, some (.evaluationFailed e.message))
    | .ok text =>
      let name := Text.trimmed text
      if isDefault name then (r.default, none)
      else
        match r.group? name with
        | some group => (group, none)
        | none => (r.default, some (.unknownGroup name))

/-- The event of a request in a group. -/
def Group.event (g : Group L) (request : Request) : Except Error String :=
  match g.eventExpression.execute request with
  | .error e => .error (.evaluate e)
  | .ok text =>
    let event := Text.trimmed text
    .ok (if event = "" then anonymousEvent else event)

/-- Decides about a request.  `reserve` asks a limiter for a token of an event. -/
def decide (reserve : L → String → σ → σ × Except Failure Reservation) (r : Router L)
    (request : Request) (s : σ) : Router L × σ × Except Failure Decision :=
  let (group, fallback) := r.select request
  let r := { r with stats := r.stats.record fallback }
  match group.event request with
  | .error e => (r, s, .error (.error e))
  | .ok event =>
    let (s, outcome) := reserve group.limiter event s
    (r, s, outcome.map fun reservation => ⟨group.name, event, reservation, fallback⟩)

end Router

end Admission
