/-
# Reading API patterns

The text of a pattern is an optional method, blanks, and a path.  A star or a name in braces
takes one segment.  A name in braces with three dots, as the last segment, takes the rest of
the path, and so does a slash at the end.  Faults are reported from left to right.
-/
import Admission.Pattern
import Admission.Text.Blank

namespace Admission.Pattern

open Text

/-- What one part of a pattern's path says. -/
inductive Part where
  /-- It takes one segment. -/
  | one (segment : Segment)
  /-- It takes the rest of the path. -/
  | rest
deriving DecidableEq, Repr

/-- The characters of wildcard names: ASCII letters and digits and the underscore. -/
def isNameChar (c : Char) : Bool :=
  c.isAlphanum || c == '_'

/-- A wildcard name has at least one character. -/
def isName (name : List Char) : Bool :=
  !name.isEmpty && name.all isNameChar

/-- What stands between the braces of a part in braces. -/
def insideBraces? (part : List Char) : Option (List Char) :=
  (afterStart? ['\x7b'] part).bind (beforeEnd? ['\x7d'])

/-- The characters that make a part something other than a word. -/
def isSpecial (c : Char) : Bool :=
  c == '\x7b' || c == '\x7d' || c == '*'

/-- A part in braces: a name, with three dots for the rest of the path. -/
def Part.ofBraces? (part : List Char) : Option Part :=
  match insideBraces? part with
  | none => none
  | some inside =>
    match beforeEnd? ['.', '.', '.'] inside with
    | some name => if isName name then some .rest else none
    | none => if isName inside then some (.one .wildcard) else none

/-- Reads a part that is not empty. -/
def Part.read? (part : List Char) : Option Part :=
  if part = ['*'] then some (.one .wildcard)
  else if part.any isSpecial then ofBraces? part
  else some (.one (.word (String.ofList part)))

/-- Reads the parts of a path: the segments, and whether the pattern is open. -/
def readParts (source : String) : List (List Char) → Except Error (List Segment × Bool)
  | [] => .ok ([], false)
  | part :: parts =>
    if part.isEmpty then
      if parts.isEmpty then .ok ([], true) else .error (.emptySegment source)
    else
      match Part.read? part with
      | none => .error (.badWildcard source (String.ofList part))
      | some .rest => if parts.isEmpty then .ok ([], true) else .error (.restNotLast source)
      | some (.one segment) =>
        (readParts source parts).map fun (segments, isOpen) => (segment :: segments, isOpen)

/-- Reads the path of a pattern. -/
def readPath (source : String) (path : List Char) : Except Error (List Segment × Bool) :=
  match path with
  | '/' :: rest => readParts source (splitOn '/' rest)
  | _ => .error (.missingLeadingSlash source)

/-- A method is a word of ASCII letters. -/
def isMethod (word : List Char) : Bool :=
  !word.isEmpty && word.all Char.isAlpha

/-- Reads a pattern. -/
def read (text : String) : Except Error Pattern :=
  let source := trimmed text
  match cutAtFirst isBlank source.toList with
  | none =>
    (readPath source source.toList).map fun (segments, isOpen) =>
      ⟨source, none, segments, isOpen⟩
  | some (word, path) =>
    if isMethod word then
      (readPath source (trimStart path)).map fun (segments, isOpen) =>
        ⟨source, some (upper (String.ofList word)), segments, isOpen⟩
    else .error (.invalidMethod source)

end Admission.Pattern
