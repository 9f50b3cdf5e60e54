/-
# RON files

Object notation in which tables and lists look like those of JSON.  A word without a meaning of
its own is a unit, which stands for no value.
-/
import Admission.Json.Reading

namespace Admission.Settings.File.Ron

open Json (Escaped)
open Text

/-! ## Comments -/

/-- What follows the end of a comment in a text that starts inside it and inside the given number
of further ones. -/
def afterClose? : Nat → List Char → Option (List Char)
  | 0, '*' :: '/' :: cs => some cs
  | depth + 1, '*' :: '/' :: cs => afterClose? depth cs
  | depth, '/' :: '*' :: cs => afterClose? (depth + 1) cs
  | depth, _ :: cs => afterClose? depth cs
  | _, [] => none

/-- What follows the comment that a text starts with. -/
def afterComment? : List Char → Option (List Char)
  | '/' :: '/' :: cs => some (cs.dropWhile (· != '\n'))
  | '/' :: '*' :: cs => afterClose? 0 cs
  | _ => none

/-! ## Strings -/

/-- What a backslash and a letter stand for. -/
def letter? : Char → Option Char
  | '\'' => some '\''
  | '"' => some '"'
  | '\\' => some '\\'
  | 'n' => some '\n'
  | 'r' => some '\r'
  | 't' => some '\t'
  | '0' => some '\x00'
  | _ => none

/-- Reads the number of a character, of up to six digits in braces. -/
def readBraced (cs : List Char) : Escaped := do
  let (digits, rest) ← cutAtFirst (· == '}') cs
  if digits.isEmpty || 6 < digits.length then none
  else
    let c ← (Json.hexNumber? digits).bind Json.character?
    return ([c], rest)

/-- Reads an escape from behind its backslash. -/
def escaped : List Char → Escaped
  | 'x' :: cs => Json.readCharacter 2 cs
  | 'u' :: '{' :: cs => readBraced cs
  | c :: cs => (letter? c).map fun e => ([e], cs)
  | [] => none

/-- Reads a string; any character may stand in it as it is.  In single quotes there is just one
character. -/
def readString (close : Char) (cs : List Char) : Option (String × List Char) :=
  match Json.readQuoted close (fun _ => true) escaped cs.length [] cs with
  | some (s, rest) => if close = '\'' ∧ s.length ≠ 1 then none else some (s, rest)
  | none => none

/-! ## Words -/

/-- Splits off the word that a text starts with. -/
def spanWord (cs : List Char) : List Char × List Char :=
  cs.span fun c => !Json.isSpace c && !Json.Dialect.isDelimiter c && c != '/'

/-- Whether a character may stand in a name. -/
def isNameChar (c : Char) : Bool :=
  c.isAlphanum || c == '_' || 0x80 ≤ c.toNat

/-- The number that a word denotes: a whole one if it fits 64 bits. -/
def number? (word : List Char) : Option Json :=
  match integer? word with
  | some n =>
    if isSmall n then some (.int n) else (Binary64.Signed.read? word).map .float
  | none => (Binary64.Signed.read? word).map .float

/-- What a word stands for. -/
def word? (word : List Char) : Option Json :=
  match String.ofList word with
  | "true" => some (.bool true)
  | "false" => some (.bool false)
  | "inf" => some (.float (.infinite false))
  | "NaN" => some (.float .nan)
  | "Some" => none
  | _ =>
    match word with
    | [] => none
    | c :: _ =>
      if c.isDigit || ['+', '-', '.'].contains c then number? word
      else if word.all isNameChar then some .null
      else none

/-! ## Texts -/

/-- How RON texts are read. -/
def dialect : Json.Dialect where
  isSpace := Json.isSpace
  afterComment? := afterComment?
  quotes := ['"', '\'']
  readString := readString
  spanWord := spanWord
  word? := word?
  key? := fun _ => none
  mayFollowColon := fun _ => true
  trailingComma := true
  loneKeys := false
  repeatedKeys := true
  maxDepth := 64

/-- Reads a RON text. -/
def read? (text : String) : Option Json :=
  dialect.read? text

end Admission.Settings.File.Ron
