/-
# JSON values in YAML

Values are written in YAML's block style, an entry or an item a line.  A text stands as it is
where it could be nothing else, and in quotes otherwise; one with several lines keeps its lines,
and also the separators of lines and paragraphs that end them.
-/
import Admission.Json
import Admission.Json.Escape
import Admission.Text.Numeral

namespace Admission.Json

open Text

namespace Yaml

/-! ## Texts that look like something else -/

/-- The words for truth values, for no value and for special numbers. -/
def specialWords : List String :=
  ["true", "True", "TRUE", "false", "False", "FALSE", "", "null", "Null", "NULL", "~", ".nan",
    ".NaN", ".NAN", ".inf", ".Inf", ".INF", "+.inf", "+.Inf", "+.INF", "-.inf", "-.Inf", "-.INF"]

/-- The number that digits in a base up to sixteen denote. -/
def digitsIn? (base : Nat) (cs : List Char) : Option Nat :=
  if cs.isEmpty then none
  else cs.foldlM (fun n c => ((hexValue? c).filter (· < base)).map (base * n + ·)) 0

/-- Whether a text is a whole number of up to 128 bits behind a mark for its base. -/
def isMarkedNumber (cs : List Char) : Bool :=
  let (negative, digits) := readSign cs
  let bound := Nat.pow 2 (if negative then 127 else 128)
  match digits with
  | '0' :: mark :: digits =>
    let base? := [('x', 16), ('o', 8), ('b', 2)].lookup mark
    (base?.bind fun base => digitsIn? base digits).any fun n =>
      n < bound || (negative && n == bound)
  | _ => false

/-- Whether a text is a number in decimal notation: a finite one, or digits with zeros in front.
There is at most one sign. -/
def isDecimalNumber (cs : List Char) : Bool :=
  let unsigned := withoutPlus cs
  let doubled := unsigned.length < cs.length && ['+', '-'].any (unsigned.head? == some ·)
  !doubled &&
    match Binary64.Signed.read? unsigned with
    | some (.finite _ _) => true
    | _ => false

/-- Whether a text would be read as something other than a text. -/
def isAmbiguous (s : String) : Bool :=
  specialWords.contains s || isMarkedNumber s.toList || isDecimalNumber s.toList

/-! ## Ways to write a text -/

/-- Whether a character ends a line. -/
def isBreak (c : Char) : Bool :=
  ['\n', '\r', '\u0085', '\u2028', '\u2029'].contains c

/-- Whether a character separates words. -/
def isBlankOrBreak (c : Char) : Bool :=
  c == ' ' || c == '\t' || isBreak c

/-- Whether a character may stand in a text as it is. -/
def isVisible (c : Char) : Bool :=
  let n := c.toNat
  n == 0x0A || (0x20 ≤ n && n ≤ 0x7E) ||
    (0xA0 ≤ n && n != 0xFEFF && n != 0xFFFE && n != 0xFFFF)

/-- Whether two neighbours are somewhere in a text. -/
def hasPair (p : Char → Char → Bool) : List Char → Bool
  | a :: b :: cs => p a b || hasPair p (b :: cs)
  | _ => false

/-- Whether a text must not stand without quotes because of a character that has a meaning
there. -/
def hasIndicator (cs : List Char) : Bool :=
  match cs with
  | [] => false
  | c :: rest =>
    let startsWord := rest.head?.all isBlankOrBreak
    "#,[]\x7b\x7d&*!|>'\"%@\x60".toList.contains c ||
      (['?', '-'].contains c && startsWord) || cs.getLast? == some ':' ||
      ["---".toList, "...".toList].contains (cs.take 3) ||
      hasPair (fun a b => (a == ':' && isBlankOrBreak b) || (isBlankOrBreak a && b == '#')) cs

/-- Whether a text can stand without quotes. -/
def isPlain (cs : List Char) : Bool :=
  cs.all (fun c => isVisible c && !isBreak c) && cs.head? != some ' ' &&
    cs.getLast? != some ' ' && !hasIndicator cs

/-- Whether a text can stand in single quotes. -/
def isQuotable (cs : List Char) : Bool :=
  cs.all isVisible &&
    !hasPair (fun a b => (a == ' ' && isBreak b) || (isBreak a && b == ' ')) cs

/-- Whether the lines of a text can be kept. -/
def keepsLines (cs : List Char) : Bool :=
  cs.all isVisible && cs.getLast? != some ' ' && !hasPair (fun a b => a == ' ' && isBreak b) cs

/-- A number in the given count of hexadecimal digits. -/
def hexDigits (count n : Nat) : List Char :=
  (List.range count).reverse.map fun k => (hexDigit (n / Nat.pow 16 k)).toUpper

/-- A character in double quotes. -/
def escapeIn (c : Char) : List Char :=
  match c with
  | '\x00' => ['\\', '0']
  | '\x07' => ['\\', 'a']
  | '\x08' => ['\\', 'b']
  | '\t' => ['\\', 't']
  | '\n' => ['\\', 'n']
  | '\x0b' => ['\\', 'v']
  | '\x0c' => ['\\', 'f']
  | '\r' => ['\\', 'r']
  | '\x1b' => ['\\', 'e']
  | '"' => ['\\', '"']
  | '\\' => ['\\', '\\']
  | '\u0085' => ['\\', 'N']
  | '\u2028' => ['\\', 'L']
  | '\u2029' => ['\\', 'P']
  | c =>
    if isVisible c then [c]
    else if c.toNat ≤ 0xFF then '\\' :: 'x' :: hexDigits 2 c.toNat
    else if c.toNat ≤ 0xFFFF then '\\' :: 'u' :: hexDigits 4 c.toNat
    else '\\' :: 'U' :: hexDigits 8 c.toNat

/-! ## Lines -/

/-- A line of a text in YAML. -/
structure Line where
  /-- What the line holds. -/
  text : String
  /-- The character that ends it. -/
  ending : Char
deriving DecidableEq, Repr

/-- A line with an ordinary end. -/
def line (text : String) : Line := ⟨text, '\n'⟩

/-- A line further to the right; an empty one stays empty. -/
def Line.shifted (l : Line) : Line :=
  if l.text.isEmpty then l else { l with text := "  " ++ l.text }

/-- A line with something in front. -/
def Line.behind (l : Line) (start : String) : Line :=
  { l with text := start ++ l.text }

/-- The lines of a text.  `read` holds the line so far, the last character first.  The end of a
line is not the start of another. -/
def linesOf (read : List Char) : List Char → List Line
  | [] => if read.isEmpty then [] else [line (String.ofList read.reverse)]
  | c :: cs =>
    if isBreak c then ⟨String.ofList read.reverse, c⟩ :: linesOf [] cs
    else linesOf (c :: read) cs

/-- The lines of a text in single quotes. -/
def singleQuoted (cs : List Char) : List Line :=
  linesOf [] ('\'' :: cs.flatMap (fun c => if c = '\'' then ['\'', '\''] else [c]) ++ ['\''])

/-- The line of a text in double quotes. -/
def doubleQuoted (cs : List Char) : List Line :=
  [line (String.ofList ('"' :: cs.flatMap escapeIn ++ ['"']))]

/-- The heading of a text whose lines are kept: whether it starts with space or with an empty
line, and how it ends. -/
def heading (cs : List Char) : String :=
  let start := if cs.head? == some ' ' || cs.head?.any isBreak then "2" else ""
  let ending := match cs.reverse with
    | [] => "-"
    | last :: before =>
      if !isBreak last then "-" else if before.head?.all isBreak then "+" else ""
  "|" ++ start ++ ending

/-- The lines that a text is written in. -/
def textLines (s : String) : List Line :=
  let cs := s.toList
  if cs.contains '\n' then
    if keepsLines cs then line (heading cs) :: linesOf [] cs else doubleQuoted cs
  else if !isAmbiguous s && isPlain cs then [line s]
  else if isQuotable cs then singleQuoted cs
  else doubleQuoted cs

/-! ## Values -/

/-- The lines of an entry: the first line of its value stands behind the key. -/
def entry (key : String) (lines : List Line) : List Line :=
  match lines with
  | [] => [line (key ++ ":")]
  | first :: more => first.behind (key ++ ": ") :: more.map Line.shifted

/-- The lines of an item. -/
def item (lines : List Line) : List Line :=
  match lines with
  | [] => [line "-"]
  | first :: more => first.behind "- " :: more.map Line.shifted

mutual

/-- The lines of a value. -/
def valueLines : Json → List Line
  | .arr [] => [line "[]"]
  | .obj [] => [line "\x7b\x7d"]
  | .arr items => itemLines items
  | .obj members => memberLines members
  | .str s => textLines s
  | v => [line v.render]

/-- The lines of the items of a list. -/
def itemLines : List Json → List Line
  | [] => []
  | value :: items => item (valueLines value) ++ itemLines items

/-- The lines of the entries of a table.  Tables stand further to the right than their key, and
lists do not. -/
def memberLines : List (String × Json) → List Line
  | [] => []
  | (key, value) :: members =>
    (match value, valueLines value with
      | .arr (_ :: _), lines => line (key ++ ":") :: lines
      | .obj (_ :: _), lines => line (key ++ ":") :: lines.map Line.shifted
      | _, lines => entry key lines) ++ memberLines members

end

end Yaml

/-- The text of a value in YAML. -/
def toYaml (v : Json) : String :=
  String.join ((Yaml.valueLines v).map fun l => l.text.push l.ending)

end Admission.Json
