/-
# Durations as text

A duration is written as a number of seconds or as a sequence of numbers with units, such as
`1m30s`.  The amounts of a sequence are added up as binary64 numbers of nanoseconds, and the
sum is rounded once more to whole nanoseconds.
-/
import Admission.Duration
import Admission.Text.Blank
import Admission.Text.Numeral

namespace Admission.Duration

open Text

/-- The nanoseconds in a unit. -/
def unitNanos? (unit : List Char) : Option Nat :=
  match String.ofList unit with
  | "ns" => some 1
  | "us" | "µs" => some 1000
  | "ms" => some 1000000
  | "s" => some 1000000000
  | "m" => some (60 * 1000000000)
  | "h" => some (3600 * 1000000000)
  | _ => none

/-- The characters of amounts. -/
def isAmountChar (c : Char) : Bool :=
  c.isDigit || c == '.'

/-- The nanoseconds of an amount with its unit. -/
def term? (amount unit : List Char) : Option Binary64 :=
  match fraction? amount, unitNanos? unit with
  | some f, some n => some (.ofRatio f.digits (Nat.pow 10 f.places) * .ofNat n)
  | _, _ => none

/-- Adds the terms of a sequence, which is given as runs of characters that are amounts and
units in turn, to a sum. -/
def addTerms (sum : Binary64) : List (List Char) → Option Binary64
  | [] => some sum
  | [_] => none
  | amount :: unit :: more =>
    match term? amount unit with
    | some x => addTerms (sum + x) more
    | none => none

/-- The sum of a sequence of terms.  It must fit 64 bits; the limit itself is read as the
longest duration below it. -/
def ofTerms? (cs : List Char) : Option Duration :=
  match addTerms .zero (runs isAmountChar cs) with
  | some sum =>
    if sum.units ≤ UInt64.size * Binary64.scale then some ⟨min sum.round (UInt64.size - 1)⟩
    else none
  | none => none

/-- Reads a duration. -/
def parse (s : String) : Option Duration :=
  let cs := trim s.toList
  if cs.isEmpty then none
  else
    match word? cs with
    | some n => some (.ofSeconds n.toNat)
    | none => ofTerms? cs

/-- Writes a duration: in nanoseconds or milliseconds if it has a part of a second, else in the
largest of hours, minutes and seconds of which it is a whole number. -/
def format (d : Duration) : String :=
  if d.nanos % 1000000 ≠ 0 then s!"{d.nanos}ns"
  else if d.millis % 1000 ≠ 0 then s!"{d.millis}ms"
  else if d.seconds ≠ 0 ∧ d.seconds % 3600 = 0 then s!"{d.seconds / 3600}h"
  else if d.seconds ≠ 0 ∧ d.seconds % 60 = 0 then s!"{d.seconds / 60}m"
  else s!"{d.seconds}s"

/-- A number of `places` digits after a point, without the zeros it ends with; nothing if it is
all zeros. -/
def pointDigits (n places : Nat) : String :=
  let digits := numeral n
  let padded := List.replicate (places - digits.length) '0' ++ digits
  let kept := stripEnd (· == '0') padded
  if n = 0 then "" else "." ++ String.ofList kept

/-- The length of a duration for readers of messages: in the largest of seconds, milliseconds,
microseconds and nanoseconds that it reaches, with decimals as needed. -/
def describe (d : Duration) : String :=
  let unit := fun (size places : Nat) (name : String) =>
    toString (d.nanos / size) ++ pointDigits (d.nanos % size) places ++ name
  if 1000000000 ≤ d.nanos then unit 1000000000 9 "s"
  else if 1000000 ≤ d.nanos then unit 1000000 6 "ms"
  else if 1000 ≤ d.nanos then unit 1000 3 "µs"
  else unit 1 0 "ns"

end Admission.Duration
