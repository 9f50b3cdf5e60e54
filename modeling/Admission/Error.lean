/-
# Errors

Everything that can go wrong, in three families and one of its own: rate limiting is switched
off, the configuration is at fault, the shared store is at fault, or an event expression does
not apply to a request.
-/
import Admission.Duration.Text
import Admission.Pattern
import Admission.Settings.Fault
import Admission.Template.Error

namespace Admission

/-- A fault of a configuration as a whole. -/
inductive ConfigFault where
  /-- A group has a blank name. -/
  | unnamedGroup
  /-- A group has no tokens at all. -/
  | zeroQuota (group : String)
  /-- A group is refilled in no time. -/
  | zeroInterval (group : String)
  /-- A setting is no duration. -/
  | badDuration (setting text : String)
  /-- The groups cannot be read. -/
  | badGroups (fault : Settings.Fault)
  /-- The match rules cannot be read. -/
  | badRules (fault : Settings.Fault)
  /-- Any other fault. -/
  | other (text : String)
deriving DecidableEq, Repr

/-- The wording of a fault. -/
def ConfigFault.message : ConfigFault → String
  | .unnamedGroup => "rate limit group without a name"
  | .zeroQuota group => "rate limit group \"" ++ group ++ "\": quota must be positive"
  | .zeroInterval group => "rate limit group \"" ++ group ++ "\": interval must be positive"
  | .badDuration setting text => setting ++ ": invalid duration \"" ++ text ++ "\""
  | .badGroups fault => "error loading rate limit groups: " ++ fault.message
  | .badRules fault => "error loading rate limit match expressions: " ++ fault.message
  | .other text => text

/-- An error. -/
inductive Error where
  /-- Rate limiting is switched off by this setting. -/
  | disabled (setting : String)
  /-- The configuration is at fault. -/
  | config (fault : ConfigFault)
  /-- The settings are at fault. -/
  | source (fault : Settings.Fault)
  /-- A template does not compile. -/
  | template (fault : Template.Error)
  /-- An API pattern cannot be read. -/
  | pattern (fault : Pattern.Error)
  /-- A group's name is taken. -/
  | duplicateGroup (name : String)
  /-- A match rule names a group that does not exist. -/
  | unknownGroup (name : String)
  /-- An event expression does not apply to a request. -/
  | evaluate (fault : Template.Error)
  /-- The store server refused. -/
  | redis (text : String)
  /-- The store answered something unexpected. -/
  | store (text : String)
  /-- The store did not answer in this time. -/
  | deadlineExceeded (timeout : Duration)
  /-- Input or output failed. -/
  | io (text : String)
deriving DecidableEq, Repr

namespace Error

/-- The error says that rate limiting is switched off; callers go on without limits. -/
def isDisabled : Error → Bool
  | .disabled _ => true
  | _ => false

/-- The error must end the setup. -/
def isConfig : Error → Bool
  | .config _ | .source _ | .template _ | .pattern _ | .duplicateGroup _ | .unknownGroup _ => true
  | _ => false

/-- The error comes from the shared store, while a request is served. -/
def isInfrastructure : Error → Bool
  | .redis _ | .store _ | .deadlineExceeded _ | .io _ => true
  | _ => false

/-- The error comes from an event expression, while a request is served. -/
def isEvaluation : Error → Bool
  | .evaluate _ => true
  | _ => false

/-- The wording of what an error was caused by. -/
def cause? : Error → Option String
  | .source fault => some fault.message
  | .template fault => some fault.message
  | .pattern fault => some fault.message
  | .evaluate fault => some fault.message
  | .redis text => some text
  | _ => none

/-- The wording of an error. -/
def message : Error → String
  | .disabled setting => "configuration \"" ++ setting ++ "\" disabled"
  | .config fault => "Configuration error: " ++ fault.message
  | .source fault => "Configuration source error: " ++ fault.message
  | .template fault => "invalid expression: " ++ fault.message
  | .pattern fault => "invalid api pattern: " ++ fault.message
  | .duplicateGroup name => "rate limit group \"" ++ name ++ "\" already registered"
  | .unknownGroup name =>
    "match expression references unknown rate limit group \"" ++ name ++ "\""
  | .evaluate fault => "failed to evaluate event expression: " ++ fault.message
  | .redis text => "Redis error: " ++ text
  | .store text => "Store error: " ++ text
  | .deadlineExceeded timeout => "deadline exceeded after " ++ timeout.describe
  | .io text => "I/O error: " ++ text

end Error

/-- Why an attempt to reserve a token has no reservation. -/
inductive Failure where
  /-- There was an error. -/
  | error (e : Error)
  /-- The delay does not fit a duration. -/
  | delayTooLong
  /-- The store never answers and nothing ends the wait. -/
  | unanswered
deriving DecidableEq, Repr

end Admission
