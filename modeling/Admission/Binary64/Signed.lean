/-
# Signed binary64 numbers and their text

Numbers of settings may be negative, infinite or not a number at all.  They are written with the
fewest significant digits that read back as the same number, in positional notation or, where the
number is very large or very small, with a power of ten.
-/
import Admission.Binary64
import Admission.Text.Numeral

namespace Admission.Binary64

open Text

/-! ## The fewest digits -/

/-- Twice the distance between a number and where the next smaller one takes over, and the same
for the next larger one, in half multiples of 2⁻¹⁰⁷⁴.  Below a power of two the numbers are
twice as dense. -/
def margins (units : Nat) : Nat × Nat :=
  let step := Nat.pow 2 (excess units)
  (if 1 < step ∧ units = Nat.pow 2 52 * step then step / 2 else step, step)

/-- Whether a decimal, given as `num / den` multiples of 2⁻¹⁰⁷⁴, reads back as the number.  The
ends of the interval belong to numbers with an even significand. -/
def readsBack (units num den : Nat) : Bool :=
  let (below, above) := margins units
  let even := units / Nat.pow 2 (excess units) % 2 == 0
  let low := (2 * units - below) * den
  let high := (2 * units + above) * den
  let twice := 2 * num
  if even then low ≤ twice && twice ≤ high else low < twice && twice < high

/-- A decimal with a natural number of digits: `digits` times a power of ten. -/
structure Decimal where
  /-- The significant digits as a number. -/
  digits : Nat
  /-- The power of ten. -/
  exponent : Int
deriving DecidableEq, Repr

/-- A decimal as a ratio of multiples of 2⁻¹⁰⁷⁴. -/
def Decimal.ratio (d : Decimal) : Nat × Nat :=
  (d.digits * Nat.pow 10 d.exponent.toNat * scale, Nat.pow 10 (-d.exponent).toNat)

/-- Which of two decimals is taken if a number lies halfway between them. -/
inductive Halfway where
  /-- The larger one. -/
  | up
  /-- The one with an even last digit. -/
  | even
deriving DecidableEq, Repr

/-- Whether the larger of two decimals around a number is taken, given the digits of the smaller
one and the rest of the number in parts of the distance between the two. -/
def Halfway.takesLarger (half : Halfway) (digits rest distance : Nat) : Bool :=
  match compare (2 * rest) distance with
  | .lt => false
  | .gt => true
  | .eq => half == .up || digits % 2 == 1

/-- The decimal with the given exponent that is nearest to the number among the two around it
that read back. -/
def decimalAt? (half : Halfway) (units : Nat) (exponent : Int) : Option Decimal :=
  let den := scale * Nat.pow 10 exponent.toNat
  let num := units * Nat.pow 10 (-exponent).toNat
  let lower : Decimal := ⟨num / den, exponent⟩
  let upper : Decimal := ⟨num / den + 1, exponent⟩
  let fits := fun (d : Decimal) => readsBack units d.ratio.1 d.ratio.2
  if fits lower then
    if fits upper && half.takesLarger (num / den) (num % den) den then some upper
    else some lower
  else if fits upper then some upper
  else none

/-- The power of ten of the first significant digit of `num / den`. -/
def leadingExponent (num den : Nat) : Int :=
  if den ≤ num then ((numeral (num / den)).length : Int) - 1
  else
    let places := (numeral (den / num)).length
    if den ≤ num * Nat.pow 10 (places - 1) then -((places : Int) - 1) else -(places : Int)

/-- Looks for a decimal that reads back, from few digits to many. -/
def shortestFrom (half : Halfway) (units : Nat) (lead : Int) (digits : Nat) : Nat → Decimal
  | 0 => ⟨0, 0⟩
  | tries + 1 =>
    match decimalAt? half units (lead - digits + 1) with
    | some d => d
    | none => shortestFrom half units lead (digits + 1) tries

/-- The decimal with the fewest digits that reads back.  Seventeen digits always do. -/
def shortest (half : Halfway) (a : Binary64) : Decimal :=
  if a.units = 0 then ⟨0, 0⟩ else shortestFrom half a.units (leadingExponent a.units scale) 1 17

/-- A decimal in positional notation, without a point if it is whole. -/
def Decimal.positional (d : Decimal) : String :=
  let digits := numeral d.digits
  if 0 ≤ d.exponent then String.ofList (digits ++ List.replicate d.exponent.toNat '0')
  else
    let places := (-d.exponent).toNat
    let padded := List.replicate (places + 1 - digits.length) '0' ++ digits
    let whole := padded.take (padded.length - places)
    let kept := stripEnd (· == '0') (padded.drop (padded.length - places))
    String.ofList (if kept.isEmpty then whole else whole ++ '.' :: kept)

/-- The power of ten of the first digit of a decimal. -/
def Decimal.lead (d : Decimal) : Int :=
  d.exponent + (numeral d.digits).length - 1

/-- A decimal with one digit before the point and a power of ten. -/
def Decimal.scientific (d : Decimal) : String :=
  let kept := stripEnd (· == '0') (numeral d.digits)
  let mantissa := match kept with
    | c :: c' :: cs => c :: '.' :: c' :: cs
    | cs => cs
  String.ofList (mantissa ++ 'e' :: (if d.lead < 0 then '-' else '+') :: numeral d.lead.natAbs)

/-! ## Signed numbers -/

/-- A binary64 number of any sign, an infinity, or no number. -/
inductive Signed where
  /-- No number. -/
  | nan
  /-- Positive or negative infinity. -/
  | infinite (negative : Bool)
  /-- A finite number; zero has both signs. -/
  | finite (negative : Bool) (magnitude : Binary64)
deriving DecidableEq, Repr

namespace Signed

/-- Finite numbers are below this many multiples of 2⁻¹⁰⁷⁴. -/
def overflow : Nat := Nat.pow 2 1024 * scale

/-- A number of the given sign and magnitude; infinite if the magnitude leaves the format. -/
def ofMagnitude (negative : Bool) (magnitude : Binary64) : Signed :=
  if magnitude.units < overflow then .finite negative magnitude else .infinite negative

/-- Whether a number differs from zero. -/
def isNonzero : Signed → Bool
  | .nan | .infinite _ => true
  | .finite _ magnitude => magnitude.units != 0

/-- The nearest whole number that fits 64 bits without a sign, a half going away from zero. -/
def toWord : Signed → UInt64
  | .nan => 0
  | .infinite negative => if negative then 0 else UInt64.ofNat (UInt64.size - 1)
  | .finite negative magnitude =>
    if negative then 0 else UInt64.ofNat (min magnitude.round (UInt64.size - 1))

/-- The text of a number. -/
def render : Signed → String
  | .nan => "NaN"
  | .infinite negative => if negative then "-inf" else "inf"
  | .finite negative magnitude =>
    (if negative then "-" else "") ++ (magnitude.shortest .up).positional

/-- A decimal in positional notation, with a point even if it is whole. -/
def withPoint (text : String) : String :=
  if text.toList.contains '.' then text else text ++ ".0"

/-- The text of a number, in which a finite one always has a point. -/
def renderWithPoint (x : Signed) : String :=
  match x with
  | .finite _ _ => withPoint x.render
  | _ => x.render

/-- The text of a number in JSON.  Numbers from 10⁻⁵ up to 10¹⁶ are in positional notation, with
a point, and all others have a power of ten. -/
def renderCompact : Signed → String
  | .finite negative magnitude =>
    let d := magnitude.shortest .even
    (if negative then "-" else "") ++
      if -5 ≤ d.lead ∧ d.lead < 16 then withPoint d.positional else d.scientific
  | x => x.render

/-! ## Reading -/

/-- The number nearest to a decimal fraction times a power of ten.  Exponents that are out of
all proportion to the digits need not be worked out. -/
def nearest (negative : Bool) (f : Fraction) (exponent : Int) : Signed :=
  let exponent := exponent - f.places
  let length := (numeral f.digits).length
  if f.digits = 0 ∨ exponent + length < -400 then .finite negative .zero
  else if 400 < exponent then .infinite negative
  else
    ofMagnitude negative
      (.ofRatio (f.digits * Nat.pow 10 exponent.toNat) (Nat.pow 10 (-exponent).toNat))

/-- Reads a number: digits with at most one point and an optional exponent, or the word for an
infinity or for no number, after an optional sign. -/
def read? (cs : List Char) : Option Signed :=
  let (negative, rest) := readSign cs
  match String.ofList (rest.map Char.toLower) with
  | "inf" | "infinity" => some (.infinite negative)
  | "nan" => some .nan
  | _ =>
    match cutAtFirst (fun c => c == 'e' || c == 'E') rest with
    | none => (fraction? rest).map (nearest negative · 0)
    | some (mantissa, exponent) =>
      match fraction? mantissa, integer? exponent with
      | some f, some e => some (nearest negative f e)
      | _, _ => none

end Signed

end Admission.Binary64
