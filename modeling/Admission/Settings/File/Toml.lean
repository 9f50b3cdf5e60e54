/-
# TOML files

Of TOML only what has no entries is read: blank texts and comments, and headers of tables.
-/
import Admission.Json.Reading
import Admission.Text.Blank

namespace Admission.Settings.File.Toml

open Text

/-! ## Blanks -/

/-- Whether a character may stand in a comment or in quotes as it is: no control character may
but the tab. -/
def isText (c : Char) : Bool :=
  c == '\t' || (0x20 ≤ c.toNat && c != '\x7f')

/-- A text without the blanks, the comments and the ends of lines that it starts with, where
`inComment` says whether it starts in a comment.  A carriage return ends a line only together
with a line feed. -/
def skip (inComment : Bool) : List Char → List Char
  | [] => []
  | '\n' :: cs => skip false cs
  | '\r' :: '\n' :: cs => skip false cs
  | c :: cs =>
    if inComment && isText c then skip true cs
    else if !inComment && isGap c then skip false cs
    else if !inComment && c == '#' then skip true cs
    else c :: cs

/-! ## Keys -/

/-- Whether a character may stand in a key without quotes. -/
def isKeyChar (c : Char) : Bool :=
  c.isAlphanum || c == '_' || c == '-'

/-- Reads an escape from behind its backslash.  A slash has none, and numbers are those of whole
characters. -/
def escaped : List Char → Json.Escaped
  | 'u' :: cs => Json.readCharacter 4 cs
  | 'U' :: cs => Json.readCharacter 8 cs
  | '/' :: _ => none
  | cs => Json.escaped cs

/-- Reads a key.  In single quotes a backslash means nothing. -/
def readKey (cs : List Char) : Option (String × List Char) :=
  match cs with
  | '"' :: rest => Json.readQuoted '"' isText escaped rest.length [] rest
  | '\'' :: rest =>
    match cutAtFirst (· == '\'') rest with
    | some (key, rest) => if key.all isText then some (String.ofList key, rest) else none
    | none => none
  | cs =>
    match cs.span isKeyChar with
    | ([], _) => none
    | (key, rest) => some (String.ofList key, rest)

/-- Reads keys with points between them. -/
def readKeys : Nat → List Char → Option (List String × List Char)
  | 0, _ => none
  | fuel + 1, cs =>
    match readKey (cs.dropWhile isGap) with
    | none => none
    | some (key, rest) =>
      match rest.dropWhile isGap with
      | '.' :: rest => (readKeys fuel rest).map fun (keys, rest) => (key :: keys, rest)
      | rest => some ([key], rest)

/-! ## Texts -/

/-- The table that has one value at the end of a path of keys. -/
def nested (value : Json) : List String → Json
  | [] => value
  | key :: keys => .obj [(key, nested value keys)]

/-- Reads the one header of a text. -/
def readHeader (cs : List Char) : Option (Json × List Char) :=
  match cs with
  | '[' :: '[' :: rest =>
    match readKeys rest.length rest with
    | some (keys, ']' :: ']' :: rest) => some (nested (.arr [.obj []]) keys, rest)
    | _ => none
  | '[' :: rest =>
    match readKeys rest.length rest with
    | some (keys, ']' :: rest) => some (nested (.obj []) keys, rest)
    | _ => none
  | _ => none

/-- Reads a TOML text without entries and with at most one header.  A mark of the order of bytes
may precede it. -/
def read? (text : String) : Option Json :=
  let cs := (afterStart? ['\uFEFF'] text.toList).getD text.toList
  match skip false cs with
  | [] => some (.obj [])
  | cs =>
    match readHeader cs with
    | some (table, rest) => if (skip false rest).isEmpty then some table else none
    | none => none

end Admission.Settings.File.Toml
