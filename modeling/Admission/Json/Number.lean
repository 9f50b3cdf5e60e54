/-
# Numbers of JSON texts

Whole numbers that fit 64 bits are kept as they are.  Every other number becomes a binary64
number: as many of its digits as fit 64 bits are scaled by a power of ten.
-/
import Admission.Json

namespace Admission.Json

open Text

/-- The largest significand. -/
def maxSignificand : Nat := UInt64.size - 1

/-- Takes digits into a significand as long as it fits 64 bits, with the number of digits taken.
What does not fit is ignored. -/
def takeDigits (significand taken : Nat) : List Char → Nat × Nat
  | [] => (significand, taken)
  | c :: cs =>
    let next := 10 * significand + (c.toNat - '0'.toNat)
    if next ≤ maxSignificand then takeDigits next (taken + 1) cs else (significand, taken)

/-- A power of ten that has a binary64 number. -/
def powerOfTen (n : Nat) : Binary64 :=
  .ofNat (Nat.pow 10 n)

/-- A significand scaled by a power of ten, in one multiplication or division by a power up to
10³⁰⁸, after one by 10³⁰⁸ itself for the smallest numbers.  Numbers beyond the format are
refused. -/
def scaled? (negative : Bool) (significand : Nat) (exponent : Int) : Option Binary64.Signed :=
  let f := Binary64.ofNat significand
  if significand = 0 then some (.finite negative .zero)
  else if 308 < exponent then none
  else if 0 ≤ exponent then
    match Binary64.Signed.ofMagnitude negative (f * powerOfTen exponent.toNat) with
    | .finite sign magnitude => some (.finite sign magnitude)
    | _ => none
  else if -308 ≤ exponent then some (.finite negative (f / powerOfTen (-exponent).toNat))
  else if -616 ≤ exponent then
    some (.finite negative (f / powerOfTen 308 / powerOfTen (-exponent - 308).toNat))
  else some (.finite negative .zero)

/-- The parts of a number. -/
structure NumberText where
  /-- There is a minus sign. -/
  negative : Bool
  /-- The digits before the point. -/
  whole : List Char
  /-- The digits after the point, if there is one. -/
  places : Option (List Char)
  /-- The sign and the digits of the exponent, if there is one. -/
  exponent : Option (Bool × List Char)

/-- The number that the parts denote.  A number without point and exponent is whole if it fits
64 bits, except for negative zero. -/
def NumberText.value? (t : NumberText) : Option Json :=
  let n := digitsValue t.whole
  if t.places.isNone && t.exponent.isNone && decide (n ≤ maxSignificand) then
    if !t.negative then some (.int n)
    else if 0 < n ∧ n ≤ 9223372036854775808 then some (.int (-n))
    else some (.float (.finite true (.ofNat n)))
  else
    let (whole, taken) := takeDigits 0 0 t.whole
    let dropped := t.whole.length - taken
    let (significand, places) := takeDigits whole 0 (t.places.getD [])
    let power : Int := match t.exponent with
      | none => 0
      | some (down, digits) => if down then -(digitsValue digits : Int) else digitsValue digits
    (scaled? t.negative significand (dropped - places + power)).map .float

/-- Takes the digits that a text starts with. -/
def spanDigits (cs : List Char) : List Char × List Char :=
  cs.span Char.isDigit

/-- Reads the digits after the point of a number, if there is one. -/
def readPlaces (cs : List Char) : Option (Option (List Char) × List Char) :=
  match cs with
  | '.' :: rest =>
    let (digits, rest) := spanDigits rest
    if digits.isEmpty then none else some (some digits, rest)
  | _ => some (none, cs)

/-- Reads the exponent that a number ends with, if it has one. -/
def readExponent (cs : List Char) : Option (Option (Bool × List Char)) :=
  match cs with
  | [] => some none
  | c :: rest =>
    let (down, digits) := readSign rest
    if (c == 'e' || c == 'E') && !digits.isEmpty && digits.all Char.isDigit then
      some (some (down, digits))
    else none

/-- The number that a word denotes.  Only zero itself may start with a zero. -/
def number? (cs : List Char) : Option Json := do
  let (negative, cs) := match cs with
    | '-' :: rest => (true, rest)
    | _ => (false, cs)
  let (whole, cs) := spanDigits cs
  if whole.isEmpty || (whole.head? == some '0' && 1 < whole.length) then none
  else
    let (places, cs) ← readPlaces cs
    let exponent ← readExponent cs
    NumberText.value? ⟨negative, whole, places, exponent⟩

end Admission.Json
