/-
# Loading configurations from settings

The rate limits of a service stand under one table of its settings.  Limits that are switched
off are not read any further, and limits that are not set take their usual values.
-/
import Admission.Config.Format
import Admission.Settings.Conversion
import Admission.Settings.Environment
import Admission.Settings.Layers

namespace Admission.Config

open Settings (Fault)

/-- The setting that switches rate limiting on. -/
def enableKey : String := "ratelimits.auth.enable"

/-- The setting for the quota of the default group. -/
def quotaKey : String := "ratelimits.auth.default.quota"

/-- The setting for the interval of the default group. -/
def intervalKey : String := "ratelimits.auth.default.interval"

/-- The setting for the event expression of the default group. -/
def eventExpressionKey : String := "ratelimits.auth.default.event_expression"

/-- The setting for the named groups. -/
def groupsKey : String := "ratelimits.auth.groups"

/-- The setting for the match rules. -/
def matchKey : String := "ratelimits.auth.match"

/-- The setting for the deadline of round trips to the store. -/
def storeTimeoutKey : String := "ratelimits.auth.store_timeout"

/-- The settings that hold when no layer says otherwise. -/
def defaultSettings : Settings :=
  let table := Settings.table none
  let leaf := Settings.leaf none
  table [("ratelimits", table [("auth", table
    [("enable", leaf (.bool false)),
      ("default", table
        [("quota", leaf (.int Params.standard.quota.toNat)), ("interval", leaf (.text "1m")),
          ("event_expression", leaf (.text Params.standard.eventExpression))])])])]

/-- The settings of a service: its settings file over the usual values, and the environment over
both.  There are none if a name in them leads to an item that a list cannot have. -/
def layered? (file : Option Settings) (environment : List (String × String)) :
    Option Settings :=
  Settings.ofLayers? defaultSettings
    (file.toList ++ [Settings.Environment.layer environment])

/-- The settings that a single file holds. -/
def unlayered? (file : Settings) : Option Settings :=
  Settings.ofLayers? .empty [file]

/-- The parts of a value of settings. -/
def shapeOfSettings : Settings → Shape Settings
  | .leaf _ _ => .single
  | .list _ items => .list items
  | .table _ entries => .table entries

/-- How settings are read. -/
def settingsFormat : Format Settings :=
  ⟨Settings.toWord, Settings.toText, Settings.found, shapeOfSettings, false⟩

/-- A fault of the settings as an error. -/
def sourced (r : Except Fault α) : Except Error α :=
  r.mapError .source

/-- Whether rate limiting is switched on. -/
def enabled (s : Settings) : Except Error Bool :=
  sourced ((s.lookup Settings.toBool enableKey).map (·.getD false))

/-- Reads a setting that is a duration written as a text. -/
def durationSetting (s : Settings) (key : String) : Except Error (Option Duration) :=
  match sourced (s.lookup Settings.toText key) with
  | .error e => .error e
  | .ok none => .ok none
  | .ok (some text) =>
    match Duration.parse text with
    | some d => .ok (some d)
    | none => .error (.config (.badDuration key text))

/-- Reads the limits of settings in which they are switched on. -/
def loadEnabled (s : Settings) : Except Error Config := do
  let quota ← sourced (s.lookup Settings.toWord quotaKey)
  let interval ← durationSetting s intervalKey
  let expression ← sourced (s.lookup Settings.toText eventExpressionKey)
  let groups ← (s.lookup (settingsFormat.list settingsFormat.group) groupsKey).mapError
    fun fault => .config (.badGroups fault)
  let rules ← (s.lookup (settingsFormat.list settingsFormat.rule) matchKey).mapError
    fun fault => .config (.badRules fault)
  let timeout ← durationSetting s storeTimeoutKey
  return ⟨⟨quota.getD Params.standard.quota, interval.getD Params.standard.interval,
      expression.getD Params.standard.eventExpression⟩,
    groups.getD [], rules.getD [], timeout⟩

/-- Reads the limits of settings; there are none if they are switched off. -/
def load (s : Settings) : Except Error (Option Config) :=
  match enabled s with
  | .error e => .error e
  | .ok false => .ok none
  | .ok true => (loadEnabled s).map some

end Admission.Config
