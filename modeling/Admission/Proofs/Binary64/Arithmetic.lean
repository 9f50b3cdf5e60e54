/-
# Arithmetic with signs, infinities and no numbers

The operations of the format in general: they can leave the range of the finite numbers, lose
their sign and end in no number at all.  On finite numbers without a sign they agree with the
operations on non-negative numbers as long as the results are in the range (`Fits`).
-/
import Admission.Binary64.Signed
import Admission.Proofs.Binary64.Error

namespace Admission.Binary64.Signed

/-! ## Operations -/

/-- The number nearest to a natural number. -/
def ofNat (n : Nat) : Signed := ofMagnitude false (.ofNat n)

/-- The number one. -/
def one : Signed := .finite false .one

/-- The number zero. -/
def zero : Signed := .finite false .zero

/-- The number of the opposite sign. -/
def neg : Signed → Signed
  | .nan => .nan
  | .infinite s => .infinite !s
  | .finite s x => .finite (!s) x

/-- The sum.  Numbers that cancel each other give the zero without a sign. -/
def add : Signed → Signed → Signed
  | .nan, _ | _, .nan => .nan
  | .infinite s, .infinite t => if s = t then .infinite s else .nan
  | .infinite s, .finite _ _ => .infinite s
  | .finite _ _, .infinite t => .infinite t
  | .finite s x, .finite t y =>
    if s = t then ofMagnitude s (x + y)
    else if y < x then ofMagnitude s (x - y)
    else if x < y then ofMagnitude t (y - x)
    else zero

/-- The product. -/
def mul : Signed → Signed → Signed
  | .nan, _ | _, .nan => .nan
  | .infinite s, .infinite t => .infinite (s ^^ t)
  | .infinite s, .finite t x | .finite s x, .infinite t =>
    if x = .zero then .nan else .infinite (s ^^ t)
  | .finite s x, .finite t y => ofMagnitude (s ^^ t) (x * y)

/-- The quotient. -/
def div : Signed → Signed → Signed
  | .nan, _ | _, .nan => .nan
  | .infinite _, .infinite _ => .nan
  | .infinite s, .finite t _ => .infinite (s ^^ t)
  | .finite s _, .infinite t => .finite (s ^^ t) .zero
  | .finite s x, .finite t y =>
    if y = .zero then if x = .zero then .nan else .infinite (s ^^ t)
    else ofMagnitude (s ^^ t) (x / y)

/-- Whether a number is at most another one. -/
def le : Signed → Signed → Bool
  | .nan, _ | _, .nan => false
  | .infinite s, .infinite t => s || !t
  | .infinite s, .finite _ _ => s
  | .finite _ _, .infinite t => !t
  | .finite false x, .finite false y => x ≤ y
  | .finite true x, .finite true y => y ≤ x
  | .finite true _, .finite false _ => true
  | .finite false x, .finite true y => x = .zero && y = .zero

instance : Neg Signed := ⟨neg⟩

instance : Add Signed := ⟨add⟩

instance : Sub Signed := ⟨fun a b => a + -b⟩

instance : Mul Signed := ⟨mul⟩

instance : Div Signed := ⟨div⟩

instance : LE Signed := ⟨fun a b => le a b = true⟩

/-- Nothing is less than no number, and no number is less than anything. -/
instance : LT Signed := ⟨fun a b => a ≤ b ∧ ¬ b ≤ a⟩

instance (a b : Signed) : Decidable (a ≤ b) := inferInstanceAs (Decidable (le a b = true))

instance (a b : Signed) : Decidable (a < b) := inferInstanceAs (Decidable (a ≤ b ∧ ¬ b ≤ a))

/-- The smaller of two numbers, or the one that is a number. -/
instance : Min Signed where
  min
    | .nan, b => b
    | a, .nan => a
    | a, b => if a ≤ b then a else b

/-- The whole part as a signed number of 64 bits; the nearest one if there is none. -/
def wholePart : Signed → Int
  | .nan => 0
  | .infinite negative => if negative then -2 ^ 63 else 2 ^ 63 - 1
  | .finite false x => min x.floor (2 ^ 63 - 1)
  | .finite true x => max (-((x.units + scale - 1) / scale : Nat)) (-2 ^ 63)

/-! ## The range -/

/-- A number that is within the range of the finite ones. -/
def Fits (x : Binary64) : Prop := x.units < overflow

variable {x y : Binary64}

lemma fits_of_le {j : Nat} (hj : j < 1024) (h : x.toRat ≤ 2 ^ j) : Fits x := by
  have hle : x.toRat ≤ (twoPow j).toRat := by rwa [toRat_twoPow]
  rw [Fits, overflow]
  generalize 1024 = limit at hj
  exact lt_of_le_of_lt (le_iff.1 (toRat_le_toRat.1 hle))
    (Nat.mul_lt_mul_of_pos_right (Nat.pow_lt_pow_right (by decide) hj) zero_lt_scale)

lemma Fits.ofMagnitude (h : Fits x) (negative : Bool) :
    ofMagnitude negative x = .finite negative x := by
  rw [Signed.ofMagnitude]
  exact if_pos h

/-! ## Finite numbers without a sign -/

lemma ofNat_of_fits {n : Nat} (h : Fits (.ofNat n)) : ofNat n = .finite false (.ofNat n) :=
  h.ofMagnitude false

lemma add_finite (h : Fits (x + y)) :
    Signed.finite false x + .finite false y = .finite false (x + y) := by
  show add (.finite false x) (.finite false y) = _
  rw [add, if_pos rfl, h.ofMagnitude]

lemma sub_finite (hle : y ≤ x) (h : Fits (x - y)) :
    Signed.finite false x - .finite false y = .finite false (x - y) := by
  show add (.finite false x) (.finite true y) = _
  rw [add, if_neg Bool.false_ne_true]
  by_cases hlt : y < x
  · rw [if_pos hlt, h.ofMagnitude]
  · have hnone : x.units - y.units = 0 := Nat.sub_eq_zero_of_le (Nat.not_lt.1 hlt)
    have hzero : x - y = .zero := by
      show ofQuotient (x.units - y.units) 1 = _
      rw [hnone, ofQuotient_zero, Binary64.zero]
    have hge : ¬ x < y := Nat.not_lt.2 hle
    rw [if_neg hlt, if_neg hge, hzero, zero]

lemma mul_finite (h : Fits (x * y)) :
    Signed.finite false x * .finite false y = .finite false (x * y) := by
  show mul (.finite false x) (.finite false y) = _
  rw [mul, Bool.xor_false, h.ofMagnitude]

lemma div_finite (hy : 0 < y.toRat) (h : Fits (x / y)) :
    Signed.finite false x / .finite false y = .finite false (x / y) := by
  have hne : y ≠ .zero := by
    rintro rfl
    exact Nat.lt_irrefl 0 (zero_lt_iff.2 hy)
  show div (.finite false x) (.finite false y) = _
  rw [div, if_neg hne, Bool.xor_false, h.ofMagnitude]

lemma le_finite : Signed.finite false x ≤ .finite false y ↔ x ≤ y :=
  decide_eq_true_iff

lemma lt_finite : Signed.finite false x < .finite false y ↔ x < y := by
  show _ ∧ ¬ _ ↔ _
  rw [le_finite, le_finite, le_iff, le_iff, lt_iff]
  omega

lemma min_finite (x y : Binary64) :
    min (Signed.finite false x) (.finite false y) = .finite false (min x y) := by
  show (if Signed.finite false x ≤ .finite false y then _ else _) =
    Signed.finite false (if x ≤ y then x else y)
  simp only [le_finite, apply_ite (Signed.finite false)]

end Admission.Binary64.Signed
