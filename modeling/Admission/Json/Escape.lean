/-
# Escapes in strings

Strings stand in quotes.  A backslash in them starts an escape: a letter for a character, or the
number of a character in hexadecimal digits.
-/
namespace Admission.Json

/-- The value of a hexadecimal digit. -/
def hexValue? (c : Char) : Option Nat :=
  if c.isDigit then some (c.toNat - '0'.toNat)
  else if 'a' ≤ c ∧ c ≤ 'f' then some (c.toNat - 'a'.toNat + 10)
  else if 'A' ≤ c ∧ c ≤ 'F' then some (c.toNat - 'A'.toNat + 10)
  else none

/-- The number that hexadecimal digits denote. -/
def hexNumber? (cs : List Char) : Option Nat :=
  cs.foldlM (fun n c => (hexValue? c).map (16 * n + ·)) 0

/-- Takes a number of the given count of hexadecimal digits from the start of a text. -/
def readHex (count : Nat) (cs : List Char) : Option (Nat × List Char) :=
  if count ≤ cs.length then (hexNumber? (cs.take count)).map (·, cs.drop count) else none

/-- The character with a number, if there is one. -/
def character? (n : Nat) : Option Char :=
  if n.isValidChar then some (Char.ofNat n) else none

/-- Whether a 16-bit unit is the first of a pair. -/
def isHighUnit (n : Nat) : Bool := 0xD800 ≤ n && n < 0xDC00

/-- Whether a 16-bit unit is the second of a pair. -/
def isLowUnit (n : Nat) : Bool := 0xDC00 ≤ n && n < 0xE000

/-- The character that a pair of 16-bit units stands for. -/
def pairValue (high low : Nat) : Nat :=
  0x10000 + (high - 0xD800) * 0x400 + (low - 0xDC00)

/-- What an escape stands for, and what follows it. -/
abbrev Escaped : Type := Option (List Char × List Char)

/-- Reads the number of a character. -/
def readCharacter (count : Nat) (cs : List Char) : Escaped := do
  let (n, rest) ← readHex count cs
  let c ← character? n
  return ([c], rest)

/-- Reads a 16-bit unit.  The first of a pair must be followed by an escape for the second. -/
def readUnit (cs : List Char) : Escaped := do
  let (high, rest) ← readHex 4 cs
  if isHighUnit high then
    match rest with
    | '\\' :: 'u' :: rest =>
      let (low, rest) ← readHex 4 rest
      if isLowUnit low then return ([Char.ofNat (pairValue high low)], rest) else none
    | _ => none
  else
    let c ← character? high
    return ([c], rest)

/-- Reads a string from behind its opening quote.  `read` holds the characters so far, the last
one first.  Each step takes a character, so the length of the text is enough fuel. -/
def readQuoted (close : Char) (isRaw : Char → Bool) (escaped : List Char → Escaped) :
    Nat → List Char → List Char → Option (String × List Char)
  | fuel + 1, read, c :: cs =>
    if c = close then some (String.ofList read.reverse, cs)
    else if c = '\\' then
      match escaped cs with
      | some (meant, rest) =>
        readQuoted close isRaw escaped fuel (meant.reverse ++ read) rest
      | none => none
    else if isRaw c then readQuoted close isRaw escaped fuel (c :: read) cs
    else none
  | _, _, _ => none

end Admission.Json
