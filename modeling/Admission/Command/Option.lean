/-
# Options of the command

The options that the command and its subcommands know, with all that their help says about them.
-/
import Admission.Text.Blank
import Admission.Text.Numeral

namespace Admission.Command

open Text

/-! ## Values -/

/-- A header written as a name and a value with an equals sign between them. -/
def header? (text : String) : Option (String × String) :=
  match cutAtFirst (· == '=') text.toList with
  | some (name, value) =>
    if (trim name).isEmpty then none
    else some (String.ofList (trim name), String.ofList (trim value))
  | none => none

/-- A number of decisions.  It may have a sign. -/
def times? (text : String) : Option Nat :=
  match smallInteger? text.toList with
  | some n => if 0 ≤ n ∧ n < (UInt32.size : Int) then some n.toNat else none
  | none => none

/-- What an option takes. -/
inductive Takes where
  /-- No value. -/
  | nothing
  /-- Any text. -/
  | text
  /-- The path of a file, which is not empty. -/
  | file
  /-- A header. -/
  | header
  /-- A number of decisions. -/
  | times
deriving DecidableEq, Repr

/-- Whether a text is a value of this kind. -/
def Takes.accepts : Takes → String → Bool
  | .nothing, _ | .text, _ => true
  | .file, value => value != ""
  | .header, value => (header? value).isSome
  | .times, value => (times? value).isSome

/-! ## Options -/

/-- An option. -/
structure Opt where
  /-- Its long name. -/
  name : String
  /-- Its short name, if it has one. -/
  short : Option Char
  /-- What it takes. -/
  takes : Takes
  /-- What its value is called. -/
  valueName : String
  /-- It may be given more than once. -/
  many : Bool
  /-- It must be given. -/
  required : Bool
  /-- The value that it has if it is not given. -/
  default : Option String
  /-- What it is for. -/
  about : String
deriving DecidableEq, Repr

/-- An option without a value. -/
def Opt.flag (name about : String) : Opt :=
  ⟨name, none, .nothing, "", false, false, none, about⟩

/-- An option with a value of its own name. -/
def Opt.value (name : String) (takes : Takes) (default : Option String) (about : String) : Opt :=
  ⟨name, none, takes, String.ofList (name.toList.map Char.toUpper), false, false, default, about⟩

/-- The settings file. -/
def configOption : Opt :=
  { Opt.value "config" .file (some "ratemux.yaml") "Configuration file (YAML)" with
    short := some 'c' }

/-- The form of logs. -/
def jsonLogsOption : Opt := .flag "json-logs" "Emit logs as JSON"

/-- The option for help. -/
def helpOption : Opt := { Opt.flag "help" "Print help" with short := some 'h' }

/-- The option for the version. -/
def versionOption : Opt := { Opt.flag "version" "Print version" with short := some 'V' }

/-- The options of the command itself. -/
def rootOptions : List Opt :=
  [configOption, jsonLogsOption, helpOption, versionOption]

/-- The options of the subcommand that validates. -/
def validateOptions : List Opt :=
  [configOption, .flag "dump" "Print the effective rate limit configuration", jsonLogsOption,
    helpOption]

/-- The options of the subcommand that checks. -/
def checkOptions : List Opt :=
  [configOption, { Opt.value "path" .text none "Request path" with required := true },
    jsonLogsOption, .value "method" .text (some "GET") "Request method",
    .value "subject" .text none "Subject of the caller identity",
    .value "tenant" .text none "Tenant of the caller identity",
    .flag "device" "Treat the subject as a device instead of a user",
    { Opt.value "header" .header none "Request header as NAME=VALUE, may be repeated" with
      valueName := "HEADERS", many := true },
    .value "repeat" .times (some "1") "Number of decisions to run",
    .value "redis" .text none
      "Redis URL of the shared window store; in-memory when omitted",
    .value "prefix" .text (some "ratemux") "Service key prefix in the store", helpOption]

end Admission.Command
