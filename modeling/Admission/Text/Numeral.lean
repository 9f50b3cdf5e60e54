/-
# Decimal numerals

Reading digits as numbers: natural numbers, machine words with an optional plus sign, and
decimal fractions.
-/
import Admission.Text.Cut

namespace Admission.Text

/-- The number that digits denote. -/
def digitsValue (cs : List Char) : Nat :=
  cs.foldl (fun n c => 10 * n + (c.toNat - '0'.toNat)) 0

/-- The number that a text of digits denotes; it has at least one digit. -/
def natural? (cs : List Char) : Option Nat :=
  if !cs.isEmpty && cs.all Char.isDigit then some (digitsValue cs) else none

/-- A text without a plus sign at its start. -/
def withoutPlus (cs : List Char) : List Char :=
  (afterStart? ['+'] cs).getD cs

/-- The number that a text of digits denotes if it fits 64 bits; a plus sign may precede it. -/
def word? (cs : List Char) : Option UInt64 :=
  match natural? (withoutPlus cs) with
  | some n => if n < UInt64.size then some (UInt64.ofNat n) else none
  | none => none

/-- Reads a sign: whether it is a minus, and what follows. -/
def readSign : List Char → Bool × List Char
  | '-' :: cs => (true, cs)
  | '+' :: cs => (false, cs)
  | cs => (false, cs)

/-- The whole number that digits after an optional sign denote. -/
def integer? (cs : List Char) : Option Int :=
  let (negative, digits) := readSign cs
  (natural? digits).map fun n => if negative then -(n : Int) else n

/-- Whether a whole number fits 64 bits with a sign. -/
def isSmall (n : Int) : Bool :=
  -9223372036854775808 ≤ n && n < 9223372036854775808

/-- The whole number that a text denotes if it fits 64 bits with a sign. -/
def smallInteger? (cs : List Char) : Option Int :=
  (integer? cs).filter isSmall

/-- A decimal fraction: `digits` divided by ten as often as there are `places`. -/
structure Fraction where
  /-- All digits as one number. -/
  digits : Nat
  /-- How many of them stand after the point. -/
  places : Nat
deriving DecidableEq, Repr

/-- Reads digits with at most one point among them; there is at least one digit. -/
def fraction? (cs : List Char) : Option Fraction :=
  match cutAtFirst (· == '.') cs with
  | none => (natural? cs).map (⟨·, 0⟩)
  | some (whole, places) => (natural? (whole ++ places)).map (⟨·, places.length⟩)

/-- The numeral of a natural number. -/
def numeral (n : Nat) : List Char :=
  Nat.toDigits 10 n

end Admission.Text
