/-
# Whole numbers

Sums, differences and products of whole numbers are the exact results, rounded once
(`whole_add_whole`, `whole_sub_whole`, `whole_mul_whole`), so as long as the results are numbers of
the format, nothing is rounded at all.
What a whole number is rounded to is whole again (`exact_round_ofNat`).
-/
import Admission.Proofs.Binary64.Rounding
import Mathlib.Tactic.Ring

namespace Admission.Binary64

variable {m n c num den : Nat} {x y : Binary64}

/-- A whole number, which need not be one of the format. -/
def whole (n : Nat) : Binary64 := ⟨n * scale⟩

/-- The scale is a large power of two.  Its exponent is kept away from tactics that evaluate. -/
lemma scale_eq_two_pow : ∃ k, 1000 ≤ k ∧ scale = 2 ^ k := by
  refine ⟨1074, by decide, ?_⟩
  unfold scale
  generalize 1074 = k
  rfl

lemma zero_lt_scale : 0 < scale := by
  obtain ⟨k, -, hscale⟩ := scale_eq_two_pow
  rw [hscale]
  exact Nat.two_pow_pos k

protected lemma zero_lt_one : (⟨0⟩ : Binary64) < one := by
  rw [lt_iff, one]
  dsimp only
  exact zero_lt_scale

lemma one_eq_whole : one = whole 1 := by
  rw [one, whole, Nat.one_mul]

protected lemma le_trans {z : Binary64} (hxy : x ≤ y) (hyz : y ≤ z) : x ≤ z :=
  Nat.le_trans (le_iff.1 hxy) (le_iff.1 hyz)

lemma whole_le_whole : whole m ≤ whole n ↔ m ≤ n := by
  rw [le_iff, whole, whole, Nat.mul_le_mul_right_iff zero_lt_scale]

lemma round_whole (n : Nat) : (whole n).round = n := by
  have hpos : 0 < 2 * scale := Nat.mul_pos Nat.two_pos zero_lt_scale
  have hsplit : 2 * (n * scale) + scale = scale + 2 * scale * n := by ring
  have hhalf : scale / (2 * scale) = 0 := Nat.div_eq_of_lt (by have := zero_lt_scale; omega)
  rw [round, whole, hsplit, Nat.add_mul_div_left _ _ hpos, hhalf, Nat.zero_add]

lemma floor_whole (n : Nat) : (whole n).floor = n :=
  Nat.mul_div_cancel n zero_lt_scale

/-! ## Numbers of the format -/

lemma exact_of_lt (h : n < 2 ^ 53) : Exact n :=
  ⟨n, 0, h, by rw [Nat.pow_zero, Nat.mul_one]⟩

lemma exact_two_pow (k : Nat) : Exact (2 ^ k) :=
  ⟨1, k, by decide, (Nat.one_mul _).symm⟩

lemma exact_whole (h : Exact n) : Exact (whole n).units := by
  obtain ⟨k, -, hscale⟩ := scale_eq_two_pow
  obtain ⟨m, e, hm, rfl⟩ := h
  exact ⟨m, e + k, hm, by rw [whole, hscale, Nat.mul_assoc, Nat.pow_add]⟩

/-- A number of the format is not rounded. -/
lemma ofQuotient_eq_of_exact (h : Exact x.units) (hden : 0 < den) :
    ofQuotient (x.units * den) den = x :=
  ext (Nat.le_antisymm (ofQuotient_le h hden (Nat.le_refl _))
    (le_ofQuotient h hden (Nat.le_refl _)))

lemma ofNat_eq_whole (h : Exact n) : ofNat n = whole n := by
  rw [ofNat, ofRatio, ← Nat.mul_one (n * scale)]
  exact ofQuotient_eq_of_exact (exact_whole h) Nat.one_pos

lemma ofQuotient_zero (den : Nat) : ofQuotient 0 den = ⟨0⟩ := by
  rw [ofQuotient, roundQuotient]
  simp

lemma ofNat_zero : ofNat 0 = ⟨0⟩ := by
  rw [ofNat, ofRatio, Nat.zero_mul, ofQuotient_zero]

/-- From 2⁵³ on the numbers of the format are whole. -/
lemma exists_eq_whole (h : Exact x.units) (hlarge : whole (2 ^ 53) ≤ x) :
    ∃ n, Exact n ∧ x = whole n := by
  obtain ⟨k, -, hscale⟩ := scale_eq_two_pow
  obtain ⟨m, e, hm, hunits⟩ := h
  have hexponent : k < e := by
    rw [le_iff, whole, hunits, hscale] at hlarge
    refine (Nat.pow_lt_pow_iff_right Nat.one_lt_two).1 (Nat.lt_of_mul_lt_mul_left
      (a := 2 ^ 53) (lt_of_le_of_lt hlarge ?_))
    exact Nat.mul_lt_mul_of_pos_right hm (Nat.two_pow_pos e)
  refine ⟨m * 2 ^ (e - k), ⟨m, e - k, hm, rfl⟩, ext ?_⟩
  rw [whole, hunits, hscale, Nat.mul_assoc, ← Nat.pow_add, Nat.sub_add_cancel hexponent.le]

/-! ## Rounding -/

lemma ofNat_le (h : Exact n) (hle : m ≤ n) : ofNat m ≤ whole n := by
  refine ofQuotient_le (exact_whole h) Nat.one_pos ?_
  rw [Nat.mul_one]
  exact Nat.mul_le_mul_right _ hle

lemma le_ofNat (h : Exact m) (hle : m ≤ n) : whole m ≤ ofNat n := by
  refine le_ofQuotient (exact_whole h) Nat.one_pos ?_
  rw [Nat.mul_one]
  exact Nat.mul_le_mul_right _ hle

/-- What a natural number is rounded to is a natural number of the format. -/
lemma exact_round_ofNat (n : Nat) : Exact (ofNat n).round := by
  rcases Nat.lt_or_ge n (2 ^ 53) with hsmall | hlarge
  · rw [ofNat_eq_whole (exact_of_lt hsmall), round_whole]
    exact exact_of_lt hsmall
  · obtain ⟨m, hm, heq⟩ := exists_eq_whole (exact_ofNat n) (le_ofNat (exact_two_pow 53) hlarge)
    rwa [heq, round_whole]

/-- Common factors do not matter to rounding. -/
lemma roundQuotient_mul_right (hc : 0 < c) :
    roundQuotient (num * c) (den * c) = roundQuotient num den := by
  have hhalf : den * c < 2 * (num % den * c) ↔ den < 2 * (num % den) := by
    rw [← Nat.mul_assoc, Nat.mul_lt_mul_right hc]
  have htie : 2 * (num % den * c) = den * c ↔ 2 * (num % den) = den := by
    rw [← Nat.mul_assoc, Nat.mul_left_inj hc.ne']
  rw [roundQuotient, roundQuotient, Nat.mul_div_mul_right _ _ hc, Nat.mul_mod_mul_right]
  simp only [hhalf, htie]

lemma ofQuotient_mul_right (hc : 0 < c) :
    ofQuotient (num * c) (den * c) = ofQuotient num den := by
  rw [ofQuotient, ofQuotient, Nat.mul_div_mul_right _ _ hc, Nat.mul_right_comm,
    roundQuotient_mul_right hc]

/-! ## Operations -/

lemma whole_add_whole (m n : Nat) : whole m + whole n = ofNat (m + n) := by
  show ofQuotient (m * scale + n * scale) 1 = ofQuotient ((m + n) * scale) 1
  rw [Nat.add_mul]

lemma whole_sub_whole (m n : Nat) : whole m - whole n = ofNat (m - n) := by
  show ofQuotient (m * scale - n * scale) 1 = ofQuotient ((m - n) * scale) 1
  rw [Nat.sub_mul]

lemma whole_mul_whole (m n : Nat) : whole m * whole n = ofNat (m * n) := by
  show ofQuotient (m * scale * (n * scale)) scale = ofQuotient (m * n * scale) 1
  have hsplit : m * scale * (n * scale) = m * n * scale * scale := by ring
  rw [hsplit]
  simpa using @ofQuotient_mul_right scale (m * n * scale) 1 zero_lt_scale

protected lemma zero_div (x : Binary64) : (⟨0⟩ : Binary64) / x = ⟨0⟩ := by
  have hnone : (⟨0⟩ : Binary64).units * scale = 0 := Nat.mul_eq_zero.2 (.inl rfl)
  show ofQuotient ((⟨0⟩ : Binary64).units * scale) x.units = ⟨0⟩
  rw [hnone, ofQuotient_zero]

protected lemma mul_zero (x : Binary64) : x * (⟨0⟩ : Binary64) = ⟨0⟩ := by
  have hnone : x.units * (⟨0⟩ : Binary64).units = 0 := Nat.mul_eq_zero.2 (.inr rfl)
  show ofQuotient (x.units * (⟨0⟩ : Binary64).units) scale = ⟨0⟩
  rw [hnone, ofQuotient_zero]

lemma zero_add_of_exact (h : Exact x.units) : zero + x = x := by
  show ofQuotient (0 + x.units) 1 = x
  rw [Nat.zero_add]
  simpa using ofQuotient_eq_of_exact h Nat.one_pos

lemma mul_ofNat_one (h : Exact x.units) : x * ofNat 1 = x := by
  rw [ofNat_eq_whole (exact_of_lt (by decide))]
  show ofQuotient (x.units * (1 * scale)) scale = x
  rw [Nat.one_mul]
  exact ofQuotient_eq_of_exact h zero_lt_scale

/-- A product is not carried below a whole number of the format that its factors reach. -/
lemma whole_le_mul (h : Exact (m * n)) (hx : whole m ≤ x) (hy : whole n ≤ y) :
    whole (m * n) ≤ x * y := by
  refine le_ofQuotient (exact_whole h) zero_lt_scale ?_
  calc m * n * scale * scale = m * scale * (n * scale) := by ring
    _ ≤ x.units * y.units := Nat.mul_le_mul hx hy

end Admission.Binary64
