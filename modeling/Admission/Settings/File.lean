/-
# Settings files

A settings file holds a table.  Files are told apart by their extension; one with an unknown
extension is no settings file and is passed over like one that is not there.
-/
import Admission.Settings
import Admission.Settings.File.Ini
import Admission.Settings.File.Json5
import Admission.Settings.File.Ron
import Admission.Settings.File.Toml
import Admission.Settings.File.Yaml

namespace Admission.Settings.File

open Text

/-! ## Formats -/

/-- The formats of settings files. -/
inductive Format where
  /-- JSON. -/
  | json
  /-- YAML. -/
  | yaml
  /-- JSON5. -/
  | json5
  /-- TOML. -/
  | toml
  /-- INI. -/
  | ini
  /-- RON. -/
  | ron
deriving DecidableEq, Repr

/-- The formats with their extensions. -/
def formats : List (String × Format) :=
  [("json", .json), ("yaml", .yaml), ("yml", .yaml), ("json5", .json5), ("toml", .toml),
    ("ini", .ini), ("ron", .ron)]

/-- The value that a text of a format holds. -/
def Format.read? : Format → String → Option Json
  | .json => Json.read?
  | .yaml => Yaml.read?
  | .json5 => Json5.read?
  | .toml => Toml.read?
  | .ini => Ini.read?
  | .ron => Ron.read?

/-- The settings in a text of a format, which must hold a table. -/
def Format.read (format : Format) (origin : Option String) (text : String) :
    Except Fault Settings :=
  match format.read? text with
  | none => .error .unreadable
  | some v =>
    match ofJson origin v with
    | .table place entries => .ok (.table place entries)
    | s => .error (.wrongRoot s.found origin)

/-! ## Names -/

/-- The last step of a path. -/
def baseName (path : String) : List Char :=
  (splitOn '/' path.toList).getLast?.getD []

/-- The extension of a file name: what follows its last point, unless the name starts there. -/
def extension? (path : String) : Option String :=
  match cutAtFirst (· == '.') (baseName path).reverse with
  | some (ext, before) => if before.isEmpty then none else some (String.ofList ext.reverse)
  | none => none

/-- The format of a file. -/
def format? (path : String) : Option Format :=
  (extension? path).bind fun ext => formats.lookup ext

/-- Whether a step of a path stays where it is. -/
def isIdle (step : List Char) : Bool :=
  step.isEmpty || step == ['.']

/-- The steps of a path up to the last one that leads somewhere. -/
def stepsTo (path : String) : List (List Char) :=
  ((splitOn '/' path.toList).reverse.dropWhile isIdle).reverse

/-- The names that a path leads to when an extension is added to it.  A path that ends with a step
back has none. -/
def extended (path : String) : List String :=
  match (stepsTo path).getLast? with
  | none => []
  | some ['.', '.'] => []
  | some _ =>
    let stem := String.intercalate "/" ((stepsTo path).map String.ofList)
    formats.map fun (ext, _) => stem ++ "." ++ ext

/-- The settings file meant by a path: the path itself if there is such a file, or else the path
with an extension added to it. -/
def locate? (isFile : String → Bool) (path : String) : Option String :=
  if isFile path then if (format? path).isSome then some path else none
  else (extended path).find? isFile

/-- The name of a file in messages: its path without the steps that lead nowhere. -/
def displayName (path : String) : String :=
  let steps := splitOn '/' path.toList
  let kept := (steps.filter (!isIdle ·)).map String.ofList
  (if steps.head? == some [] then "/" else "") ++ String.intercalate "/" kept

/-! ## Files -/

/-- The settings in a file with a name. -/
def read (name text : String) : Except Fault Settings :=
  match format? name with
  | some format => format.read (some (displayName name)) text
  | none => .error .unreadable

end Admission.Settings.File
