/-
# Reading JSON

JSON texts are read strictly: strings stand in double quotes, nothing may be left out, and of two
members with one key the later one counts.
-/
import Admission.Json.Dialect
import Admission.Json.Number

namespace Admission.Json

/-- Whether a character may stand between the tokens. -/
def isSpace (c : Char) : Bool :=
  c == ' ' || c == '\n' || c == '\t' || c == '\r'

/-- The character that a backslash and a letter stand for. -/
def letter? : Char → Option Char
  | '"' => some '"'
  | '\\' => some '\\'
  | '/' => some '/'
  | 'b' => some '\x08'
  | 'f' => some '\x0c'
  | 'n' => some '\n'
  | 'r' => some '\r'
  | 't' => some '\t'
  | _ => none

/-- Reads an escape from behind its backslash. -/
def escaped : List Char → Escaped
  | 'u' :: cs => readUnit cs
  | c :: cs => (letter? c).map fun e => ([e], cs)
  | [] => none

/-- Reads a string, in which no control characters may stand as they are. -/
def readString (close : Char) (cs : List Char) : Option (String × List Char) :=
  readQuoted close (fun c => 0x20 ≤ c.toNat) escaped cs.length [] cs

/-- Splits off the word that a text starts with. -/
def spanWord (cs : List Char) : List Char × List Char :=
  cs.span fun c => !isSpace c && !Dialect.isDelimiter c

/-- The value of one of the three words with a meaning. -/
def constant? (word : List Char) : Option Json :=
  match String.ofList word with
  | "null" => some .null
  | "true" => some (.bool true)
  | "false" => some (.bool false)
  | _ => none

/-- How JSON texts are read. -/
def dialect : Dialect where
  isSpace := isSpace
  afterComment? := fun _ => none
  quotes := ['"']
  readString := readString
  spanWord := spanWord
  word? := fun word => constant? word <|> number? word
  key? := fun _ => none
  mayFollowColon := fun _ => true
  trailingComma := false
  loneKeys := false
  repeatedKeys := true
  maxDepth := 127

/-- Reads a JSON text. -/
def read? (text : String) : Option Json :=
  dialect.read? text

end Admission.Json
