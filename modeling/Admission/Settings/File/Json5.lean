/-
# JSON5 files

JSON5 allows more than JSON: single quotes, names as keys, a comma at the end, infinities, and
numbers that start or end with their point.  There may be comments.
-/
import Admission.Json.Reading
import Admission.Text.Blank

namespace Admission.Settings.File.Json5

open Json (Escaped)
open Text

/-- Whether a character ends a line. -/
def isLineEnd (c : Char) : Bool :=
  ['\n', '\r', '\u2028', '\u2029'].contains c

/-- Whether a character may stand between the tokens. -/
def isSpace (c : Char) : Bool :=
  (isBlank c && c != '\u0085') || c == '\uFEFF'

/-- What follows the end of a comment in a text that starts inside it. -/
def afterClose? : List Char → Option (List Char)
  | '*' :: '/' :: cs => some cs
  | _ :: cs => afterClose? cs
  | [] => none

/-- What follows the comment that a text starts with. -/
def afterComment? : List Char → Option (List Char)
  | '/' :: '/' :: cs => some (cs.dropWhile (!isLineEnd ·))
  | '/' :: '*' :: cs => afterClose? cs
  | _ => none

/-- What a backslash and a letter stand for; most letters stand for themselves. -/
def letter (c : Char) : Char :=
  match c with
  | 'b' => '\x08'
  | 'f' => '\x0c'
  | 'n' => '\n'
  | 'r' => '\r'
  | 't' => '\t'
  | 'v' => '\x0b'
  | '0' => '\x00'
  | c => c

/-- Reads an escape from behind its backslash.  One before the end of a line stands for nothing,
and the digits from 1 on have no meaning. -/
def escaped : List Char → Escaped
  | 'u' :: cs => Json.readUnit cs
  | 'x' :: cs => Json.readCharacter 2 cs
  | '\r' :: '\n' :: cs => some ([], cs)
  | c :: cs =>
    if isLineEnd c then some ([], cs)
    else if c.isDigit && c != '0' then none
    else some ([letter c], cs)
  | [] => none

/-- Reads a string, which must end in its line. -/
def readString (close : Char) (cs : List Char) : Option (String × List Char) :=
  Json.readQuoted close (!isLineEnd ·) escaped cs.length [] cs

/-- Splits off the word that a text starts with. -/
def spanWord (cs : List Char) : List Char × List Char :=
  cs.span fun c =>
    !isSpace c && !Json.Dialect.isDelimiter c && c != '\'' && c != '/'

/-- The number that a word denotes.  Without point and exponent it must fit 64 bits with a sign,
and no other number may be too large to be finite. -/
def number? (word : List Char) : Option Json :=
  let (negative, digits) := readSign word
  match String.ofList digits with
  | "Infinity" => some (.float (.infinite negative))
  | "NaN" => some (.float .nan)
  | _ =>
    if digits.head? == some '0' && (digits.drop 1).head?.any Char.isDigit then none
    else if digits.any ['.', 'e', 'E'].contains then
      match Binary64.Signed.read? word with
      | some (.finite sign magnitude) => some (.float (.finite sign magnitude))
      | _ => none
    else (smallInteger? word).map .int

/-- Whether a character may stand in a name. -/
def isNameChar (c : Char) : Bool :=
  c.isAlphanum || c == '_' || c == '$' || 0x80 ≤ c.toNat

/-- The key that a word stands for, if it is a name. -/
def key? (word : List Char) : Option String :=
  match word with
  | c :: _ => if word.all isNameChar && !c.isDigit then some (String.ofList word) else none
  | [] => none

/-- How JSON5 texts are read.  There is no bound on the nesting but the length of the text. -/
def dialect (maxDepth : Nat) : Json.Dialect where
  isSpace := isSpace
  afterComment? := afterComment?
  quotes := ['"', '\'']
  readString := readString
  spanWord := spanWord
  word? := fun word => Json.constant? word <|> number? word
  key? := key?
  mayFollowColon := fun _ => true
  trailingComma := true
  loneKeys := false
  repeatedKeys := true
  maxDepth := maxDepth

/-- Reads a JSON5 text. -/
def read? (text : String) : Option Json :=
  (dialect text.length).read? text

end Admission.Settings.File.Json5
