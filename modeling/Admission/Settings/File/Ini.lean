/-
# INI files

Entries are lines with a key and a value, and stand in sections.  Every value is a text.
-/
import Admission.Json.Escape
import Admission.Json
import Admission.Text.Blank

namespace Admission.Settings.File.Ini

open Text

/-! ## Pieces -/

/-- What a backslash and a letter stand for. -/
def letter (c : Char) : List Char :=
  match c with
  | '0' => ['\x00']
  | 'a' => ['\x07']
  | 'b' => ['\x08']
  | 't' => ['\t']
  | 'r' => ['\r']
  | 'n' => ['\n']
  | '\n' => []
  | c => [c]

/-- Reads up to a character that ends the piece, and leaves that character.  The end of the text
is no end of a piece. -/
def readUntil (isEnd : Char → Bool) : Nat → List Char → Option (List Char × List Char)
  | fuel + 1, c :: cs =>
    if isEnd c then some ([], c :: cs)
    else
      let piece? : Json.Escaped :=
        match c, cs with
        | '\\', 'x' :: rest => Json.readCharacter 4 rest
        | '\\', e :: rest => some (letter e, rest)
        | '\\', [] => none
        | c, rest => some ([c], rest)
      piece?.bind fun (piece, rest) =>
        (readUntil isEnd fuel rest).map fun (more, rest) => (piece ++ more, rest)
  | _, _ => none

/-- Reads the rest of a line. -/
def readLine (cs : List Char) : Option (List Char × List Char) :=
  readUntil (fun c => c == '\n' || c == '\r') (cs.length + 2) (cs ++ ['\n'])

/-- Reads a value.  Quotes may stand around the first part of it. -/
def readValue (cs : List Char) : Option (List Char × List Char) :=
  match cs.dropWhile fun c => isBlank c && c != '\n' && c != '\r' with
  | [] => some ([], [])
  | c :: cs =>
    if c = '"' ∨ c = '\'' then do
      let (inner, rest) ← readUntil (· == c) (cs.length + 1) cs
      let (more, rest) ← readLine (rest.drop 1)
      return (inner ++ more, rest)
    else readLine (c :: cs)

/-! ## Texts -/

/-- A section: its name, unless it is the root, and its entries. -/
structure Section where
  /-- The name. -/
  name : Option String
  /-- The entries. -/
  entries : List (String × Json)

/-- A section with one more entry. -/
def Section.add (s : Section) (key value : String) : Section :=
  { s with entries := Json.putMember key (.str value) s.entries }

/-- Puts a section into a table.  The entries of the root are entries of the table itself. -/
def Section.putInto (s : Section) (table : List (String × Json)) : List (String × Json) :=
  match s.name with
  | some name => Json.putMember name (.obj s.entries) table
  | none => s.entries.foldl (fun table (key, value) => Json.putMember key value table) table

/-- Whether a text starts a line and what it holds without the blanks in front, where `start`
says whether it started a line with them. -/
def skipBlanks (start : Bool) : List Char → Bool × List Char
  | [] => (start, [])
  | c :: cs => if isBlank c then skipBlanks (c == '\n') cs else (start, c :: cs)

/-- Reads entries and sections up to the end of the text.  `done` holds the sections so far, the
last one first, and `now` is the section that entries belong to.  Only at the start of a line may
a comment stand; `start` says whether one starts here. -/
def readSections :
    Nat → List Section → Section → Bool → List Char → Option (List Section)
  | 0, _, _, _, _ => none
  | fuel + 1, done, now, start, cs =>
    match skipBlanks start cs with
    | (_, []) => some (now :: done)
    | (_, '[' :: rest) =>
      match readUntil (· == ']') (rest.length + 1) rest with
      | some (name, rest) =>
        let next : Section := ⟨some (String.ofList (trim name)), []⟩
        readSections fuel (now :: done) next false (rest.drop 1)
      | none => none
    | (start, c :: rest) =>
      if c = ';' ∨ c = '#' then
        if start then readSections fuel done now false (rest.dropWhile (· != '\n')) else none
      else
        match readUntil (fun c => c == '=' || c == ':') (rest.length + 2) (c :: rest) with
        | some (key, rest) =>
          if (trim key).isEmpty then none
          else
            match readValue (rest.drop 1) with
            | some (value, rest) =>
              let now := now.add (String.ofList (trim key)) (String.ofList value)
              readSections fuel done now false rest
            | none => none
        | none => none

/-- Reads an INI text.  Of two sections with one name the later one counts. -/
def read? (text : String) : Option Json :=
  (readSections (text.length + 2) [] ⟨none, []⟩ true text.toList).map fun sections =>
    .obj (sections.foldr Section.putInto [])

end Admission.Settings.File.Ini
