/-
# Help

What the command prints when it is asked for help or for its version.  Options stand in two
columns: how they are written, and what they are for.
-/
import Admission.Command.Arguments

namespace Admission.Command

/-- Lines in two columns, with two blanks before and between them. -/
def columns (rows : List (String × String)) : String :=
  let width := rows.foldl (fun width (left, _) => max width left.length) 0
  String.join (rows.map fun (left, right) =>
    "  " ++ left ++ String.ofList (List.replicate (width + 2 - left.length) ' ') ++ right ++ "\n")

/-- How an option is written. -/
def Opt.form (o : Opt) : String :=
  (match o.short with
    | some c => String.ofList ['-', c] ++ ", "
    | none => "    ") ++
    "--" ++ o.name ++ (if o.takes = .nothing then "" else " <" ++ o.valueName ++ ">")

/-- What an option is for. -/
def Opt.description (o : Opt) : String :=
  o.about ++ o.default.elim "" fun value => " [default: " ++ value ++ "]"

/-- A section of a help text, with a heading. -/
def part (heading : String) (rows : List (String × String)) : String :=
  "\n" ++ heading ++ ":\n" ++ columns rows

/-- The section about options. -/
def optionSection (options : List Opt) : String :=
  part "Options" (options.map fun o => (o.form, o.description))

/-- What the subcommands are for. -/
def Topic.about : Topic → String
  | .command => "Grouped HTTP admission control"
  | .validate => "Load the configuration and build the multiplexer"
  | .check => "Run rate limit decisions for a synthetic request"
  | .help => "Print this message or the help of the given subcommand(s)"

/-- How the command is used. -/
def Topic.usage : Topic → String
  | .command => "ratemux [OPTIONS] <COMMAND>"
  | .validate => "ratemux validate [OPTIONS]"
  | .check => "ratemux check [OPTIONS] --path <PATH>"
  | .help => "ratemux help [COMMAND]..."

/-- What follows the usage in a help text. -/
def Topic.details : Topic → String
  | .command =>
    part "Commands"
        [("validate", Topic.about .validate), ("check", Topic.about .check),
          ("help", Topic.about .help)] ++
      optionSection rootOptions
  | .validate => optionSection validateOptions
  | .check => optionSection checkOptions
  | .help => part "Arguments" [("[COMMAND]...", "Print help for the subcommand(s)")]

/-- A help text. -/
def Topic.text (topic : Topic) : String :=
  topic.about ++ "\n\nUsage: " ++ topic.usage ++ "\n" ++ topic.details

/-- What is printed for the version. -/
def versionText : String := "ratemux 0.1.0\n"

end Admission.Command
