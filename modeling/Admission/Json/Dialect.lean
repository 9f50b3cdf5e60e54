/-
# Dialects of JSON

Several formats write tables, lists, strings and words like JSON, and differ in what strings and
words may hold and in where something may be left out.  A dialect is the record of these
differences, with a reader of its values.
-/
import Admission.Json
import Admission.Json.Escape

namespace Admission.Json

/-- A way to write JSON values. -/
structure Dialect where
  /-- Whether a character may stand between the tokens. -/
  isSpace : Char → Bool
  /-- What follows the comment that a text starts with. -/
  afterComment? : List Char → Option (List Char)
  /-- The characters that strings start with. -/
  quotes : List Char
  /-- Reads a string from behind its opening quote. -/
  readString : Char → List Char → Option (String × List Char)
  /-- Splits off the word that a text starts with. -/
  spanWord : List Char → List Char × List Char
  /-- What a word stands for. -/
  word? : List Char → Option Json
  /-- The key that a word stands for. -/
  key? : List Char → Option String
  /-- Whether a text may stand behind the colon of a member. -/
  mayFollowColon : List Char → Bool
  /-- A comma may follow the last item and the last member. -/
  trailingComma : Bool
  /-- The value of a member may be left out. -/
  loneKeys : Bool
  /-- A key may be given again; the later member counts. -/
  repeatedKeys : Bool
  /-- How deep values may be nested. -/
  maxDepth : Nat

namespace Dialect

/-- The characters that end words. -/
def isDelimiter (c : Char) : Bool :=
  [',', ':', '[', ']', '{', '}', '"'].contains c

/-- A text without the space and the comments it starts with; a comment takes a character. -/
def skipComments (d : Dialect) : Nat → List Char → List Char
  | 0, cs => cs
  | fuel + 1, cs =>
    let cs := cs.dropWhile d.isSpace
    match d.afterComment? cs with
    | some rest => skipComments d fuel rest
    | none => cs

/-- A text without what may stand between the tokens. -/
def skip (d : Dialect) (cs : List Char) : List Char :=
  let cs := cs.dropWhile d.isSpace
  match d.afterComment? cs with
  | some rest => d.skipComments (rest.length + 1) rest
  | none => cs

/-- Reads the key of a member. -/
def readKey (d : Dialect) (cs : List Char) : Option (String × List Char) :=
  match d.skip cs with
  | [] => none
  | c :: rest =>
    if d.quotes.contains c then d.readString c rest
    else
      let (word, rest) := d.spanWord (c :: rest)
      (d.key? word).map (·, rest)

/-- Whether a member ends here. -/
def atMemberEnd (d : Dialect) (cs : List Char) : Bool :=
  match d.skip cs with
  | c :: _ => c == ',' || c == '}'
  | [] => false

mutual

/-- Reads a value.  `depth` bounds the nesting, and `fuel` the number of steps. -/
def readValue (d : Dialect) (depth : Nat) : Nat → List Char → Option (Json × List Char)
  | 0, _ => none
  | fuel + 1, cs =>
    match d.skip cs, depth with
    | '[' :: rest, depth + 1 => readItems d depth fuel [] rest
    | '{' :: rest, depth + 1 => readMembers d depth fuel [] rest
    | c :: rest, _ =>
      if d.quotes.contains c then (d.readString c rest).map fun (s, rest) => (.str s, rest)
      else
        let (word, rest) := d.spanWord (c :: rest)
        (d.word? word).map (·, rest)
    | [], _ => none

/-- Reads the items of an array from the next one on. -/
def readItems (d : Dialect) (depth : Nat) :
    Nat → List Json → List Char → Option (Json × List Char)
  | 0, _, _ => none
  | fuel + 1, read, cs =>
    match d.skip cs with
    | ']' :: rest =>
      if read.isEmpty || d.trailingComma then some (.arr read.reverse, rest) else none
    | cs =>
      match readValue d depth fuel cs with
      | none => none
      | some (item, rest) =>
        match d.skip rest with
        | ',' :: rest => readItems d depth fuel (item :: read) rest
        | ']' :: rest => some (.arr (item :: read).reverse, rest)
        | _ => none

/-- Reads what follows the key of a member. -/
def readMember (d : Dialect) (depth : Nat) : Nat → List Char → Option (Json × List Char)
  | 0, _ => none
  | fuel + 1, cs =>
    if d.loneKeys && d.atMemberEnd cs then some (.null, cs)
    else
      match d.skip cs with
      | ':' :: rest =>
        if !d.mayFollowColon rest then none
        else if d.loneKeys && d.atMemberEnd rest then some (.null, rest)
        else readValue d depth fuel rest
      | _ => none

/-- Reads the members of an object from the next one on. -/
def readMembers (d : Dialect) (depth : Nat) :
    Nat → List (String × Json) → List Char → Option (Json × List Char)
  | 0, _, _ => none
  | fuel + 1, read, cs =>
    match d.skip cs with
    | '}' :: rest => if read.isEmpty || d.trailingComma then some (.obj read, rest) else none
    | cs =>
      match d.readKey cs with
      | none => none
      | some (key, rest) =>
        match readMember d depth fuel rest with
        | none => none
        | some (value, rest) =>
          if !d.repeatedKeys && (read.lookup key).isSome then none
          else
            match d.skip rest with
            | ',' :: rest => readMembers d depth fuel (putMember key value read) rest
            | '}' :: rest => some (.obj (putMember key value read), rest)
            | _ => none

end

/-- Reads a text that holds one value.  Each character takes at most three steps of the
reader. -/
def read? (d : Dialect) (text : String) : Option Json :=
  let cs := text.toList
  match d.readValue d.maxDepth (3 * cs.length + 3) cs with
  | some (value, rest) => if (d.skip rest).isEmpty then some value else none
  | none => none

end Dialect

end Admission.Json
