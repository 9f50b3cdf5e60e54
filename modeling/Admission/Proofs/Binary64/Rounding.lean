/-
# Rounding

Every operation on numbers ends with one rounding of a quotient of natural numbers.  Rounding
gives a number of the format (`exact_ofQuotient`), and it does not carry a quotient past such a
number: what is at least one rounds to at least it (`le_ofQuotient`), and what is at most one
rounds to at most it (`ofQuotient_le`).
-/
import Admission.Binary64
import Mathlib.Algebra.Group.Nat.Defs
import Mathlib.Tactic.Common

namespace Admission.Binary64

/-- The multiples of 2⁻¹⁰⁷⁴ that are numbers of the format: they have 53 significant bits. -/
def Exact (n : Nat) : Prop :=
  ∃ m e, m < 2 ^ 53 ∧ n = m * 2 ^ e

variable {a n num den : Nat}

/-! ## Quotients -/

lemma div_le_roundQuotient (num den : Nat) : num / den ≤ roundQuotient num den := by
  rw [roundQuotient]
  split <;> omega

lemma roundQuotient_le_succ (num den : Nat) : roundQuotient num den ≤ num / den + 1 := by
  rw [roundQuotient]
  split <;> omega

/-- A quotient that is not above a whole number is not rounded above it. -/
lemma roundQuotient_le {k : Nat} (hden : 0 < den) (h : num ≤ k * den) :
    roundQuotient num den ≤ k := by
  have hdiv : num / den ≤ k := Nat.div_le_of_le_mul (by rwa [Nat.mul_comm])
  rcases Nat.lt_or_eq_of_le hdiv with hlt | heq
  · exact Nat.le_trans (roundQuotient_le_succ num den) hlt
  · -- the quotient is the whole number itself, and nothing is left to round
    have hsplit := Nat.div_add_mod num den
    rw [heq, Nat.mul_comm] at hsplit
    have hrest : num % den = 0 := by omega
    rw [roundQuotient, hrest, if_neg (by omega)]
    exact hdiv

/-! ## Binades -/

lemma two_pow_log2_le (hn : excess n ≠ 0) : 2 ^ (52 + excess n) ≤ n := by
  have hlog : 52 + excess n = n.log2 := by
    simp only [excess] at hn ⊢
    omega
  rw [hlog]
  refine Nat.log2_self_le ?_
  rintro rfl
  simp [excess] at hn

lemma lt_two_pow_excess (n : Nat) : n < 2 ^ (53 + excess n) := by
  refine Nat.lt_of_lt_of_le Nat.lt_log2_self (Nat.pow_le_pow_right (by decide) ?_)
  simp only [excess]
  omega

/-- A number of the format lies on the grid of every binade that does not begin above it. -/
lemma Exact.two_pow_dvd (ha : Exact a) (hn : 2 ^ (52 + excess n) ≤ a) : 2 ^ excess n ∣ a := by
  obtain ⟨m, e, hm, rfl⟩ := ha
  have hlt : 2 ^ (52 + excess n) < 2 ^ (53 + e) := by
    rw [Nat.pow_add 2 53]
    exact Nat.lt_of_le_of_lt hn (Nat.mul_lt_mul_of_pos_right hm (Nat.two_pow_pos e))
  have he : 52 + excess n < 53 + e := (Nat.pow_lt_pow_iff_right (by decide)).1 hlt
  exact Nat.dvd_mul_left_of_dvd (Nat.pow_dvd_pow 2 (by omega)) m

/-- Cutting a number down to the grid of its binade does not carry it below a number of the
format. -/
lemma Exact.le_floor (ha : Exact a) (h : a ≤ n) : a ≤ n / 2 ^ excess n * 2 ^ excess n := by
  have hpos : 0 < 2 ^ excess n := Nat.two_pow_pos _
  have hfloor : ∀ b, b ≤ n → 2 ^ excess n ∣ b → b ≤ n / 2 ^ excess n * 2 ^ excess n := by
    rintro b hb ⟨k, rfl⟩
    rw [Nat.mul_comm]
    exact Nat.mul_le_mul_right _ ((Nat.le_div_iff_mul_le hpos).2 (by rwa [Nat.mul_comm]))
  by_cases hstart : 2 ^ (52 + excess n) ≤ a
  · exact hfloor a h (ha.two_pow_dvd hstart)
  · by_cases hexcess : excess n = 0
    · simpa [hexcess] using h
    · -- the start of the binade lies on the grid, between the two
      have := hfloor _ (two_pow_log2_le hexcess) (Nat.pow_dvd_pow 2 (by omega))
      omega

/-! ## Rounding -/

/-- Rounding gives a number of the format. -/
lemma exact_ofQuotient (num den : Nat) : Exact (ofQuotient num den).units := by
  have hfloor : num / (den * 2 ^ excess (num / den)) < 2 ^ 53 := by
    rw [← Nat.div_div_eq_div_mul, Nat.div_lt_iff_lt_mul (Nat.two_pow_pos _), ← Nat.pow_add]
    exact lt_two_pow_excess _
  have hround := roundQuotient_le_succ num (den * 2 ^ excess (num / den))
  simp only [ofQuotient, Nat.pow_eq]
  rcases Nat.lt_or_ge (roundQuotient num (den * 2 ^ excess (num / den))) (2 ^ 53) with hlt | hge
  · exact ⟨_, _, hlt, rfl⟩
  · -- rounded up to the start of the next binade
    have heq : roundQuotient num (den * 2 ^ excess (num / den)) = 2 ^ 53 := by omega
    exact ⟨1, 53 + excess (num / den), by decide, by rw [heq, ← Nat.pow_add, Nat.one_mul]⟩

/-- What is at least a number of the format rounds to at least that number. -/
lemma le_ofQuotient (ha : Exact a) (hden : 0 < den) (h : a * den ≤ num) :
    a ≤ (ofQuotient num den).units := by
  have hfloor := ha.le_floor ((Nat.le_div_iff_mul_le hden).2 h)
  simp only [ofQuotient, Nat.pow_eq]
  refine Nat.le_trans hfloor (Nat.mul_le_mul_right _ ?_)
  rw [Nat.div_div_eq_div_mul]
  exact div_le_roundQuotient _ _

/-- What is at most a number of the format rounds to at most that number. -/
lemma ofQuotient_le (ha : Exact a) (hden : 0 < den) (h : num ≤ a * den) :
    (ofQuotient num den).units ≤ a := by
  have hquotient : num / den ≤ a := Nat.div_le_of_le_mul (by rwa [Nat.mul_comm])
  have hgrid : 2 ^ excess (num / den) ∣ a := by
    by_cases hexcess : excess (num / den) = 0
    · simp [hexcess]
    · exact ha.two_pow_dvd (Nat.le_trans (two_pow_log2_le hexcess) hquotient)
  obtain ⟨k, rfl⟩ := hgrid
  simp only [ofQuotient, Nat.pow_eq]
  rw [Nat.mul_comm _ k]
  refine Nat.mul_le_mul_right _ (roundQuotient_le (Nat.mul_pos hden (Nat.two_pow_pos _)) ?_)
  calc num ≤ 2 ^ excess (num / den) * k * den := h
    _ = k * (den * 2 ^ excess (num / den)) := by ac_rfl

/-! ## Operations -/

variable {x y z : Binary64}

lemma exact_ofNat (n : Nat) : Exact (ofNat n).units := exact_ofQuotient _ _

lemma not_le : ¬ x ≤ y ↔ y < x := Nat.not_le

lemma le_min (hx : z ≤ x) (hy : z ≤ y) : z ≤ min x y := by
  rw [le_iff, units_min]
  exact Nat.le_min.2 ⟨hx, hy⟩

lemma exact_min (hx : Exact x.units) (hy : Exact y.units) : Exact (min x y).units := by
  rw [units_min, Nat.min_def]
  split
  · exact hx
  · exact hy

/-- Adding to a number of the format does not make it smaller. -/
lemma le_add_right (hx : Exact x.units) : x ≤ x + y :=
  le_ofQuotient hx Nat.one_pos (by omega)

/-- Taking from a number does not carry it above a number of the format. -/
lemma sub_le (hz : Exact z.units) (h : x ≤ z) : x - y ≤ z :=
  ofQuotient_le hz Nat.one_pos (by have := le_iff.1 h; omega)

end Admission.Binary64
