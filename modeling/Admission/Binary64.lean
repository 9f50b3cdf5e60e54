/-
# Non-negative binary64 numbers

A finite non-negative binary64 number is a whole multiple of the smallest one, 2⁻¹⁰⁷⁴.  It is
represented here by that multiple, so that numbers are ordered like their multiples and every
operation is exact arithmetic on natural numbers followed by one rounding: to 53 significant
bits, to the nearest, a half to the even neighbour.  Exponents have no upper bound here; where
a result could leave the format, the operation that uses it says so.
-/
namespace Admission

/-- A non-negative binary64 number. -/
structure Binary64 where
  /-- The number as a multiple of 2⁻¹⁰⁷⁴. -/
  units : Nat
deriving DecidableEq, Repr

namespace Binary64

/-- The multiple that is the number one. -/
def scale : Nat := Nat.pow 2 1074

/-- A quotient rounded to the nearest whole number, a half to the even neighbour. -/
def roundQuotient (num den : Nat) : Nat :=
  let q := num / den
  let r := num % den
  if den < 2 * r ∨ (2 * r = den ∧ q % 2 = 1) then q + 1 else q

/-- How many low bits a number has beyond 53 significant ones. -/
def excess (n : Nat) : Nat :=
  n.log2 + 1 - 53

/-- The number nearest to `num / den` multiples of 2⁻¹⁰⁷⁴. -/
def ofQuotient (num den : Nat) : Binary64 :=
  let step := Nat.pow 2 (excess (num / den))
  ⟨roundQuotient num (den * step) * step⟩

/-- The number nearest to a ratio. -/
def ofRatio (num den : Nat) : Binary64 :=
  ofQuotient (num * scale) den

/-- The number nearest to a natural number. -/
def ofNat (n : Nat) : Binary64 :=
  ofRatio n 1

instance : Add Binary64 := ⟨fun a b => ofQuotient (a.units + b.units) 1⟩

/-- Subtraction stops at zero. -/
instance : Sub Binary64 := ⟨fun a b => ofQuotient (a.units - b.units) 1⟩

instance : Mul Binary64 := ⟨fun a b => ofQuotient (a.units * b.units) scale⟩

/-- Division by zero gives zero; callers divide by positive numbers only. -/
instance : Div Binary64 := ⟨fun a b => ofQuotient (a.units * scale) b.units⟩

instance : LE Binary64 := ⟨fun a b => a.units ≤ b.units⟩

instance : LT Binary64 := ⟨fun a b => a.units < b.units⟩

instance (a b : Binary64) : Decidable (a ≤ b) := Nat.decLe a.units b.units

instance (a b : Binary64) : Decidable (a < b) := Nat.decLt a.units b.units

instance : Min Binary64 := ⟨fun a b => if a ≤ b then a else b⟩

/-- The number zero. -/
def zero : Binary64 := ⟨0⟩

/-- The number one. -/
def one : Binary64 := ⟨scale⟩

/-- The whole part. -/
def floor (a : Binary64) : Nat :=
  a.units / scale

/-- The nearest whole number, a half going up. -/
def round (a : Binary64) : Nat :=
  (2 * a.units + scale) / (2 * scale)

/-- The interchange encoding, for numbers within the format. -/
def bits (a : Binary64) : Nat :=
  if a.units < Nat.pow 2 52 then a.units
  else
    let exponent := a.units.log2 - 52
    (exponent + 1) * Nat.pow 2 52 + (a.units / Nat.pow 2 exponent - Nat.pow 2 52)

theorem le_iff {a b : Binary64} : a ≤ b ↔ a.units ≤ b.units := Iff.rfl

theorem lt_iff {a b : Binary64} : a < b ↔ a.units < b.units := Iff.rfl

@[ext] theorem ext {a b : Binary64} (h : a.units = b.units) : a = b := by
  cases a; cases b; simpa using h

theorem units_min (a b : Binary64) : (min a b).units = min a.units b.units := by
  show (if a ≤ b then a else b).units = _
  by_cases h : a.units ≤ b.units
  · rw [if_pos (le_iff.2 h), Nat.min_eq_left h]
  · rw [if_neg (mt le_iff.1 h), Nat.min_eq_right (by omega)]

end Binary64

end Admission
