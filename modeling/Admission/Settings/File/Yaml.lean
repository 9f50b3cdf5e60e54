/-
# YAML files

Settings in YAML's flow style, in which tables and lists stand in brackets like in JSON.  Words
need no quotes, so there are hardly any wrong ones.
-/
import Admission.Json.Reading
import Admission.Text.Blank

namespace Admission.Settings.File.Yaml

open Json (Escaped)
open Text

/-- Whether a character ends a line. -/
def isLineEnd (c : Char) : Bool :=
  c == '\n' || c == '\r'

/-- What follows the comment that a text starts with. -/
def afterComment? : List Char → Option (List Char)
  | '#' :: cs => some (cs.dropWhile (!isLineEnd ·))
  | _ => none

/-! ## Strings -/

/-- What a backslash and a letter stand for. -/
def letter? : Char → Option Char
  | '0' => some '\x00'
  | 'a' => some '\x07'
  | 'b' => some '\x08'
  | 't' | '\t' => some '\t'
  | 'n' => some '\n'
  | 'v' => some '\x0b'
  | 'f' => some '\x0c'
  | 'r' => some '\r'
  | 'e' => some '\x1b'
  | ' ' => some ' '
  | '"' => some '"'
  | '/' => some '/'
  | '\\' => some '\\'
  | 'N' => some '\u0085'
  | '_' => some '\u00a0'
  | 'L' => some '\u2028'
  | 'P' => some '\u2029'
  | _ => none

/-- Reads an escape from behind its backslash.  Numbers are those of whole characters. -/
def escaped : List Char → Escaped
  | 'x' :: cs => Json.readCharacter 2 cs
  | 'u' :: cs => Json.readCharacter 4 cs
  | 'U' :: cs => Json.readCharacter 8 cs
  | c :: cs => (letter? c).map fun e => ([e], cs)
  | [] => none

/-- Reads a string in single quotes, in which a quote is written twice. -/
def readSingle (read : List Char) : List Char → Option (String × List Char)
  | '\'' :: '\'' :: cs => readSingle ('\'' :: read) cs
  | '\'' :: cs => some (String.ofList read.reverse, cs)
  | c :: cs => if isLineEnd c then none else readSingle (c :: read) cs
  | [] => none

/-- Reads a string, which must end in its line. -/
def readString (close : Char) (cs : List Char) : Option (String × List Char) :=
  if close = '\'' then readSingle [] cs
  else Json.readQuoted close (!isLineEnd ·) escaped cs.length [] cs

/-! ## Words -/

/-- The brackets and the comma, which end words everywhere. -/
def isIndicator (c : Char) : Bool :=
  [',', '[', ']', '{', '}'].contains c

/-- Whether a word ends before this text: at a bracket, a comma, the end of a line, a comment, or
a colon that is followed by one of them or by space. -/
def atWordEnd : List Char → Bool
  | [] => true
  | ':' :: c :: _ => isIndicator c || Json.isSpace c
  | [':'] => true
  | c :: '#' :: _ => isIndicator c || Json.isSpace c
  | c :: _ => isIndicator c || isLineEnd c

/-- Splits off the word that a text starts with. -/
def spanWord : List Char → List Char × List Char
  | [] => ([], [])
  | c :: cs =>
    if atWordEnd (c :: cs) then ([], c :: cs)
    else
      let (word, rest) := spanWord cs
      (c :: word, rest)

/-- Whether a word may start like this. -/
def startsWord : List Char → Bool
  | [] => false
  | c :: rest =>
    if ['-', '?', ':'].contains c then
      rest.head?.any fun next => !Json.isSpace next && !isIndicator next
    else !("#&*!|>%@\x60".toList.contains c)

/-- The number that a word denotes: a whole one if it fits 64 bits. -/
def number? (word : List Char) : Option Json :=
  match smallInteger? word with
  | some n => some (.int n)
  | none => (Binary64.Signed.read? word).map .float

/-- What a word stands for: mostly itself. -/
def word? (word : List Char) : Option Json :=
  let word := stripEnd Json.isSpace word
  if !startsWord word then none
  else if word = ['~'] then some .null
  else
    match Json.constant? word with
    | some v => some v
    | none => number? word <|> some (.str (String.ofList word))

/-- Whether a text may stand behind a colon.  Tabs right behind the colon do not set off a word
that starts with a letter, a digit, a dash or a low line, unless there is a space among them. -/
def mayFollowColon (cs : List Char) : Bool :=
  let (gap, rest) := cs.span isGap
  let startsWord := rest.head?.any fun c => c.isAlphanum || c == '-' || c == '_'
  !(gap.head? == some '\t' && !gap.contains ' ' && startsWord)

/-- The key that a word stands for, if it is a text or a whole number. -/
def key? (word : List Char) : Option String :=
  match word? word with
  | some (.str s) => some s
  | some (.int n) => some (toString n)
  | _ => none

/-! ## Texts -/

/-- How YAML texts are read. -/
def dialect : Json.Dialect where
  isSpace := Json.isSpace
  afterComment? := afterComment?
  quotes := ['"', '\'']
  readString := readString
  spanWord := spanWord
  word? := word?
  key? := key?
  mayFollowColon := mayFollowColon
  trailingComma := true
  loneKeys := true
  repeatedKeys := false
  maxDepth := 255

/-- Reads a YAML text.  One without a value holds an empty table. -/
def read? (text : String) : Option Json :=
  if (dialect.skip text.toList).isEmpty then some (.obj []) else dialect.read? text

end Admission.Settings.File.Yaml
