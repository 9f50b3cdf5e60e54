/-
# The program

Reads the arguments, the environment and the settings file, runs the command and prints what it
reports.
-/
import Admission.Command
import Admission.Command.Help
import Admission.Settings.File
import Std.Time.DateTime.Timestamp

namespace Admission.Program

/-- The environment, as the system lists it for this process. -/
def environment : IO (List (String × String)) := do
  let bytes ← IO.FS.readBinFile "/proc/self/environ"
  let text := (String.fromUTF8? bytes).getD ""
  return (Text.splitOn '\x00' text.toList).filterMap fun entry =>
    (Text.cutAtFirst (· == '=') entry).map fun (name, value) =>
      (String.ofList name, String.ofList value)

/-- Whether there is a file that can be read under a path. -/
def isFile (path : String) : IO Bool := do
  try
    let _ ← IO.FS.readBinFile path
    return true
  catch _ => return false

/-- The settings in the file meant by a path, if there is one. -/
def settingsFile (path : String) : IO (Option (Except Settings.Fault Settings)) := do
  let candidates := path :: Settings.File.extended path
  let present ← candidates.filterM isFile
  match Settings.File.locate? present.contains path with
  | none => return none
  | some name => return some (Settings.File.read name (← IO.FS.readFile name))

/-- The time now. -/
def clock : IO Window.Clock := do
  let wall ← Std.Time.Timestamp.now
  let now ← IO.monoNanosNow
  return ⟨UInt64.ofNat wall.toMillisecondsSinceUnixEpoch.val.toNat, ⟨now⟩⟩

end Admission.Program

open Admission in
/-- Runs the command.  The exit code is 2 for wrong arguments and 1 for errors. -/
def main (args : List String) : IO UInt32 := do
  match Command.Invocation.read args with
  | .error .usage => IO.eprint (Command.Topic.text .command); return 2
  | .error (.help topic) => IO.print topic.text; return 0
  | .error .version => IO.print Command.versionText; return 0
  | .ok invocation =>
    let file ← Program.settingsFile invocation.config
    match Command.run? invocation (← Program.clock) file (← Program.environment) with
    | none => return 101
    | some report =>
      IO.print report.output
      match report.errorText? with
      | none => return 0
      | some text => IO.eprintln text; return 1
