/-
# Rounding errors

Rounding takes or adds at most one part in 2⁵³ of a quotient, unless the quotient is too small to
have 53 significant bits.  Here this is said of the value of a number (`toRat`), for every
operation: the result lies between `kept` and `grown` of the exact one.  Errors of several roundings
multiply (`Rounded`).
-/
import Admission.Proofs.Binary64.Whole
import Mathlib.Algebra.Order.Field.Rat
import Mathlib.Tactic.FieldSimp
import Mathlib.Tactic.GCongr
import Mathlib.Tactic.Linarith
import Mathlib.Tactic.Positivity

namespace Admission.Binary64

variable {num den : Nat}

/-! ## Quotients of natural numbers -/

/-- Rounding down loses at most a half. -/
lemma two_mul_le_roundQuotient (hden : 0 < den) :
    2 * num ≤ (2 * roundQuotient num den + 1) * den := by
  have hsplit := Nat.div_add_mod num den
  have hrest := Nat.mod_lt num hden
  rw [Nat.mul_comm] at hsplit
  rw [roundQuotient]
  split
  · have : (2 * (num / den + 1) + 1) * den = 2 * (num / den * den) + 3 * den := by ring
    omega
  · have : (2 * (num / den) + 1) * den = 2 * (num / den * den) + den := by ring
    omega

/-- Rounding up adds at most a half. -/
lemma two_mul_roundQuotient_le (hden : 0 < den) :
    2 * (roundQuotient num den * den) ≤ 2 * num + den := by
  have hsplit := Nat.div_add_mod num den
  have hrest := Nat.mod_lt num hden
  rw [Nat.mul_comm] at hsplit
  rw [roundQuotient]
  split
  · have : (num / den + 1) * den = num / den * den + den := by ring
    omega
  · omega

/-- The unit of the last place is at most one part in 2⁵² of a quotient with 53 bits. -/
lemma step_le (h : 2 ^ 52 * den ≤ num) : 2 ^ 52 * (den * 2 ^ excess (num / den)) ≤ num := by
  by_cases hexcess : excess (num / den) = 0
  · rwa [hexcess, Nat.pow_zero, Nat.mul_one]
  · have hlow := two_pow_log2_le hexcess
    calc 2 ^ 52 * (den * 2 ^ excess (num / den)) = 2 ^ (52 + excess (num / den)) * den := by
          rw [Nat.pow_add]; ring
      _ ≤ num / den * den := Nat.mul_le_mul_right _ hlow
      _ ≤ num := Nat.div_mul_le_self num den

/-- Of a quotient with 53 bits rounding loses at most one part in 2⁵³. -/
lemma le_ofQuotient_mul (hden : 0 < den) (h : 2 ^ 52 * den ≤ num) :
    num * 2 ^ 53 ≤ (ofQuotient num den).units * den * 2 ^ 53 + num := by
  have hstep := step_le h
  have hround : 2 * num ≤ _ :=
    two_mul_le_roundQuotient (Nat.mul_pos hden (Nat.two_pow_pos (excess (num / den))))
  simp only [ofQuotient, Nat.pow_eq]
  generalize roundQuotient num (den * 2 ^ excess (num / den)) = rounded at hround ⊢
  generalize 2 ^ excess (num / den) = step at hstep hround ⊢
  have hsplit : (2 * rounded + 1) * (den * step) = 2 * (rounded * step * den) + den * step := by
    ring
  omega

/-- To a quotient with 53 bits rounding adds at most one part in 2⁵³. -/
lemma ofQuotient_mul_le (hden : 0 < den) (h : 2 ^ 52 * den ≤ num) :
    (ofQuotient num den).units * den * 2 ^ 53 ≤ num * 2 ^ 53 + num := by
  have hstep := step_le h
  have hround : _ ≤ 2 * num + _ :=
    two_mul_roundQuotient_le (Nat.mul_pos hden (Nat.two_pow_pos (excess (num / den))))
  simp only [ofQuotient, Nat.pow_eq]
  generalize roundQuotient num (den * 2 ^ excess (num / den)) = rounded at hround ⊢
  generalize 2 ^ excess (num / den) = step at hstep hround ⊢
  have hsplit : rounded * (den * step) = rounded * step * den := by ring
  omega

/-! ## Values -/

/-- The value of a number. -/
def toRat (x : Binary64) : ℚ := x.units / scale

/-- What is left at least of a result when it is rounded. -/
def kept : ℚ := 1 - 1 / 2 ^ 53

/-- What is made of a result at most when it is rounded. -/
def grown : ℚ := 1 + 1 / 2 ^ 53

/-- The least number with 53 significant bits. -/
def leastNormal : ℚ := 2 ^ 52 / scale

variable {x y : Binary64}

lemma scale_pos : (0 : ℚ) < scale :=
  Nat.cast_pos.2 zero_lt_scale

lemma kept_pos : 0 < kept := by
  norm_num [kept]

lemma toRat_nonneg (x : Binary64) : 0 ≤ x.toRat :=
  div_nonneg x.units.cast_nonneg scale_pos.le

lemma toRat_zero : (⟨0⟩ : Binary64).toRat = 0 := by
  rw [toRat, Nat.cast_zero, zero_div]

lemma toRat_one : one.toRat = 1 := by
  rw [toRat, one, div_self scale_pos.ne']

lemma toRat_le_toRat : x.toRat ≤ y.toRat ↔ x ≤ y := by
  rw [toRat, toRat, div_le_div_iff_of_pos_right scale_pos, Nat.cast_le, le_iff]

lemma toRat_lt_toRat : x.toRat < y.toRat ↔ x < y := by
  rw [toRat, toRat, div_lt_div_iff_of_pos_right scale_pos, Nat.cast_lt, lt_iff]

lemma toRat_min (x y : Binary64) : (min x y).toRat = min x.toRat y.toRat := by
  rw [toRat, toRat, toRat, units_min, Nat.cast_min, min_div_div_right scale_pos.le]

lemma zero_lt_iff : zero < x ↔ 0 < x.toRat := by
  rw [toRat, div_pos_iff_of_pos_right scale_pos, Nat.cast_pos, lt_iff, zero]

/-! ## Several roundings -/

/-- The value `y` lies where `n` roundings, one after another, can have carried `x`. -/
structure Rounded (n : ℕ) (x y : ℚ) : Prop where
  kept_le : kept ^ n * x ≤ y
  le_grown : y ≤ grown ^ n * x

namespace Rounded

variable {n m : ℕ} {a a' b b' c : ℚ}

lemma one (hkept : kept * a ≤ b) (hgrown : b ≤ grown * a) : Rounded 1 a b :=
  ⟨by rwa [pow_one], by rwa [pow_one]⟩

lemma refl (a : ℚ) : Rounded 0 a a :=
  ⟨by rw [pow_zero, one_mul], by rw [pow_zero, one_mul]⟩

/-- More roundings can carry a number at least as far. -/
lemma mono (h : Rounded n a b) (ha : 0 ≤ a) (hnm : n ≤ m) : Rounded m a b := by
  have hkept : kept ^ m ≤ kept ^ n :=
    pow_le_pow_of_le_one kept_pos.le (by norm_num [kept]) hnm
  have hgrown : grown ^ n ≤ grown ^ m := pow_le_pow_right₀ (by norm_num [grown]) hnm
  exact ⟨le_trans (mul_le_mul_of_nonneg_right hkept ha) h.kept_le,
    le_trans h.le_grown (mul_le_mul_of_nonneg_right hgrown ha)⟩

lemma trans (h : Rounded n a b) (h' : Rounded m b c) : Rounded (n + m) a c := by
  have hkept : 0 ≤ kept ^ m := pow_nonneg kept_pos.le m
  have hgrown : 0 ≤ grown ^ m := pow_nonneg (by norm_num [grown]) m
  constructor
  · calc kept ^ (n + m) * a = kept ^ m * (kept ^ n * a) := by ring
      _ ≤ kept ^ m * b := mul_le_mul_of_nonneg_left h.kept_le hkept
      _ ≤ c := h'.kept_le
  · calc c ≤ grown ^ m * b := h'.le_grown
      _ ≤ grown ^ m * (grown ^ n * a) := mul_le_mul_of_nonneg_left h.le_grown hgrown
      _ = grown ^ (n + m) * a := by ring

lemma add (h : Rounded n a b) (h' : Rounded n a' b') : Rounded n (a + a') (b + b') := by
  constructor
  · linarith [h.kept_le, h'.kept_le]
  · linarith [h.le_grown, h'.le_grown]

lemma mul_right (h : Rounded n a b) (hc : 0 ≤ c) : Rounded n (a * c) (b * c) := by
  constructor
  · rw [← mul_assoc]
    exact mul_le_mul_of_nonneg_right h.kept_le hc
  · rw [← mul_assoc]
    exact mul_le_mul_of_nonneg_right h.le_grown hc

lemma div_right (h : Rounded n a b) (hc : 0 ≤ c) : Rounded n (a / c) (b / c) := by
  rw [div_eq_mul_inv, div_eq_mul_inv]
  exact h.mul_right (inv_nonneg.2 hc)

lemma kept_mul_le (h : Rounded 1 a b) : kept * a ≤ b := by
  simpa only [pow_one] using h.kept_le

end Rounded

/-- A quotient with 53 bits is rounded once. -/
lemma rounded_ofQuotient (hden : 0 < den) (h : 2 ^ 52 * den ≤ num) :
    Rounded 1 (num / den) (ofQuotient num den).units := by
  have hpos : (0 : ℚ) < den := Nat.cast_pos.2 hden
  have hlow : (num : ℚ) * 2 ^ 53 ≤ (ofQuotient num den).units * den * 2 ^ 53 + num := by
    exact_mod_cast le_ofQuotient_mul hden h
  have hhigh : ((ofQuotient num den).units : ℚ) * den * 2 ^ 53 ≤ num * 2 ^ 53 + num := by
    exact_mod_cast ofQuotient_mul_le hden h
  refine .one ?_ ?_
  · rw [kept, ← mul_div_assoc, div_le_iff₀ hpos]
    linarith
  · rw [grown, ← mul_div_assoc, le_div_iff₀ hpos]
    linarith

/-- Whole numbers without 53 bits are not rounded at all. -/
lemma rounded_ofQuotient_one (n : Nat) : Rounded 1 n (ofQuotient n 1).units := by
  rcases Nat.lt_or_ge n (2 ^ 52) with hlt | hge
  · have hexact : Exact n := ⟨n, 0, by omega, by omega⟩
    have hsame : (ofQuotient n 1).units = n :=
      Nat.le_antisymm (ofQuotient_le hexact Nat.one_pos (by omega))
        (le_ofQuotient hexact Nat.one_pos (by omega))
    rw [hsame]
    exact (Rounded.refl _).mono n.cast_nonneg (Nat.zero_le 1)
  · simpa using rounded_ofQuotient Nat.one_pos (by omega : 2 ^ 52 * 1 ≤ n)

/-! ## Operations -/

lemma rounded_add (x y : Binary64) : Rounded 1 (x.toRat + y.toRat) (x + y).toRat := by
  have hround := (rounded_ofQuotient_one (x.units + y.units)).div_right scale_pos.le
  rwa [Nat.cast_add, add_div] at hround

lemma rounded_sub (h : y.toRat ≤ x.toRat) : Rounded 1 (x.toRat - y.toRat) (x - y).toRat := by
  have hround := (rounded_ofQuotient_one (x.units - y.units)).div_right scale_pos.le
  rwa [Nat.cast_sub (toRat_le_toRat.1 h), sub_div] at hround

lemma rounded_mul (h : leastNormal ≤ x.toRat * y.toRat) :
    Rounded 1 (x.toRat * y.toRat) (x * y).toRat := by
  have hscale := scale_pos
  have hbits : 2 ^ 52 * scale ≤ x.units * y.units := by
    rw [leastNormal, toRat, toRat, div_mul_div_comm, div_le_div_iff₀ hscale (by positivity),
      ← mul_assoc, mul_le_mul_iff_left₀ hscale] at h
    exact_mod_cast h
  have hround := (rounded_ofQuotient (Nat.cast_pos.1 hscale) hbits).div_right hscale.le
  have hvalue : x.toRat * y.toRat = (x.units * y.units : Nat) / scale / scale := by
    rw [toRat, toRat, Nat.cast_mul]
    ring
  rwa [← hvalue] at hround

lemma rounded_div (hy : 0 < y.toRat) (h : leastNormal ≤ x.toRat / y.toRat) :
    Rounded 1 (x.toRat / y.toRat) (x / y).toRat := by
  have hscale := scale_pos
  have hunits : (0 : ℚ) < y.units := (div_pos_iff_of_pos_right hscale).1 hy
  have hratio : x.toRat / y.toRat = x.units / y.units := div_div_div_cancel_right₀ hscale.ne' _ _
  have hbits : 2 ^ 52 * y.units ≤ x.units * scale := by
    rw [leastNormal, hratio, div_le_div_iff₀ hscale hunits] at h
    exact_mod_cast h
  have hround := (rounded_ofQuotient (Nat.cast_pos.1 hunits) hbits).div_right hscale.le
  have hvalue : x.toRat / y.toRat = (x.units * scale : Nat) / y.units / scale := by
    rw [hratio, Nat.cast_mul]
    field_simp
  rwa [← hvalue] at hround

lemma rounded_ofNat (n : Nat) : Rounded 1 n (ofNat n).toRat := by
  have hround := (rounded_ofQuotient_one (n * scale)).div_right scale_pos.le
  rwa [Nat.cast_mul, mul_div_cancel_right₀ _ scale_pos.ne'] at hround

/-! ## Bounds -/

variable {z : Binary64}

/-- A sum that is not above a number of the format is not rounded above it. -/
lemma add_le (hz : Exact z.units) (h : x.toRat + y.toRat ≤ z.toRat) : x + y ≤ z := by
  rw [toRat, toRat, ← add_div, toRat, div_le_div_iff_of_pos_right scale_pos] at h
  refine ofQuotient_le hz Nat.one_pos ?_
  rw [Nat.mul_one]
  exact_mod_cast h

lemma mul_le (hz : Exact z.units) (h : x.toRat * y.toRat ≤ z.toRat) : x * y ≤ z := by
  have hscale := scale_pos
  rw [toRat, toRat, toRat, div_mul_div_comm, ← div_div,
    div_le_div_iff_of_pos_right hscale, div_le_iff₀ hscale] at h
  exact ofQuotient_le hz zero_lt_scale (by exact_mod_cast h)

lemma div_le (hz : Exact z.units) (hy : 0 < y.toRat) (h : x.toRat ≤ z.toRat * y.toRat) :
    x / y ≤ z := by
  have hscale := scale_pos
  have hunits : (0 : ℚ) < y.units := (div_pos_iff_of_pos_right hscale).1 hy
  rw [toRat, toRat, toRat, div_mul_div_comm, ← div_div,
    div_le_div_iff_of_pos_right hscale, le_div_iff₀ hscale] at h
  exact ofQuotient_le hz (Nat.cast_pos.1 hunits) (by exact_mod_cast h)

lemma exact_one : Exact one.units := by
  rw [one_eq_whole]
  exact exact_whole (exact_of_lt (by decide))

/-- What is missing to one is at most one. -/
lemma one_sub_le (x : Binary64) : (one - x).toRat ≤ 1 := by
  rw [← toRat_one, toRat_le_toRat]
  exact sub_le exact_one (Nat.le_refl _)

lemma one_le_ofNat {n : Nat} (h : 0 < n) : one ≤ ofNat n := by
  rw [one_eq_whole]
  exact le_ofNat (exact_of_lt (by decide)) h

lemma one_le_add (h : 1 ≤ x.toRat + y.toRat) : one ≤ x + y := by
  rw [toRat, toRat, ← add_div, le_div_iff₀ scale_pos, one_mul] at h
  have hle : scale ≤ x.units + y.units := by exact_mod_cast h
  refine le_ofQuotient exact_one Nat.one_pos ?_
  simpa only [one, Nat.mul_one] using hle

lemma toRat_whole (n : Nat) : (whole n).toRat = n := by
  rw [toRat, whole, Nat.cast_mul, mul_div_cancel_right₀ _ scale_pos.ne']

/-- A power of two. -/
def twoPow (j : Nat) : Binary64 := whole (2 ^ j)

lemma exact_twoPow (j : Nat) : Exact (twoPow j).units :=
  exact_whole (exact_two_pow j)

lemma toRat_twoPow (j : Nat) : (twoPow j).toRat = 2 ^ j := by
  rw [twoPow, toRat_whole, Nat.cast_pow, Nat.cast_ofNat]

lemma ofNat_le_twoPow {n j : Nat} (h : n ≤ 2 ^ j) : (ofNat n).toRat ≤ 2 ^ j := by
  rw [← toRat_twoPow, toRat_le_toRat]
  exact ofNat_le (exact_two_pow j) h

lemma add_le_twoPow {j : Nat} (h : x.toRat + y.toRat ≤ 2 ^ j) : (x + y).toRat ≤ 2 ^ j := by
  rw [← toRat_twoPow] at h ⊢
  exact toRat_le_toRat.2 (add_le (exact_twoPow j) h)

lemma mul_le_twoPow {j : Nat} (h : x.toRat * y.toRat ≤ 2 ^ j) : (x * y).toRat ≤ 2 ^ j := by
  rw [← toRat_twoPow] at h ⊢
  exact toRat_le_toRat.2 (mul_le (exact_twoPow j) h)

lemma div_le_twoPow {j : Nat} (hy : 0 < y.toRat) (h : x.toRat ≤ 2 ^ j * y.toRat) :
    (x / y).toRat ≤ 2 ^ j := by
  rw [← toRat_twoPow] at h ⊢
  exact toRat_le_toRat.2 (div_le (exact_twoPow j) hy h)

/-- Natural numbers of 53 bits are not rounded. -/
lemma toRat_ofNat {n : Nat} (h : n < 2 ^ 53) : (ofNat n).toRat = n := by
  rw [ofNat_eq_whole (exact_of_lt h), toRat_whole]

/-- A number of the format below a power of two leaves a gap of one part in 2⁵³ of it. -/
lemma Exact.add_two_pow_le {n k : Nat} (h : Exact n) (hlt : n < 2 ^ k * 2 ^ 53) :
    n + 2 ^ k ≤ 2 ^ k * 2 ^ 53 := by
  obtain ⟨m, e, hm, rfl⟩ := h
  rcases Nat.lt_or_ge e k with hlow | hhigh
  · -- the number lies in a lower binade
    have hhalf : m * 2 ^ e ≤ 2 ^ 52 * 2 ^ k := by
      calc m * 2 ^ e ≤ 2 ^ 53 * 2 ^ e := Nat.mul_le_mul_right _ hm.le
        _ = 2 ^ 52 * 2 ^ (e + 1) := by ring
        _ ≤ 2 ^ 52 * 2 ^ k := Nat.mul_le_mul_left _ (Nat.pow_le_pow_right (by decide) hlow)
    omega
  · -- the number lies on the grid of the binade below the power
    obtain ⟨c, hc⟩ : 2 ^ k ∣ m * 2 ^ e := Nat.dvd_mul_left_of_dvd (Nat.pow_dvd_pow 2 hhigh) m
    rw [hc] at hlt ⊢
    calc 2 ^ k * c + 2 ^ k = 2 ^ k * (c + 1) := by ring
      _ ≤ 2 ^ k * 2 ^ 53 := Nat.mul_le_mul_left _ (Nat.lt_of_mul_lt_mul_left hlt)

/-- No number lies between `kept` and one. -/
lemma toRat_le_kept (h : Exact x.units) (hlt : x < one) : x.toRat ≤ kept := by
  obtain ⟨k, hk, hscale⟩ := scale_eq_two_pow
  have hsplit : scale = 2 ^ (k - 53) * 2 ^ 53 := by
    rw [hscale, ← Nat.pow_add, Nat.sub_add_cancel (by omega)]
  rw [lt_iff, one, hsplit] at hlt
  have hgap := h.add_two_pow_le hlt
  have hcast : (x.units : ℚ) + 2 ^ (k - 53) ≤ 2 ^ (k - 53) * 2 ^ 53 := by exact_mod_cast hgap
  have hvalue : (scale : ℚ) = 2 ^ (k - 53) * 2 ^ 53 := by exact_mod_cast hsplit
  rw [toRat, kept, div_le_iff₀ scale_pos, hvalue]
  linarith

/-- A difference that is a number of the format is not rounded. -/
lemma toRat_sub_of_exact (hle : y ≤ x) (h : Exact (x.units - y.units)) :
    (x - y).toRat = x.toRat - y.toRat := by
  have hround := ofQuotient_eq_of_exact (x := ⟨x.units - y.units⟩) h Nat.one_pos
  rw [Nat.mul_one] at hround
  have hdifference : x - y = ⟨x.units - y.units⟩ := hround
  rw [hdifference, toRat, toRat, toRat, Nat.cast_sub (le_iff.1 hle), sub_div]

/-- Between one and 2⁵³ a number of the format goes down by exactly one. -/
lemma toRat_sub_one (hx : Exact x.units) (hlow : one ≤ x) (hhigh : x ≤ whole (2 ^ 53)) :
    (x - one).toRat = x.toRat - 1 := by
  obtain ⟨k, -, hscale⟩ := scale_eq_two_pow
  have hone : one.units = 2 ^ k := by rw [one, hscale]
  rw [toRat_sub_of_exact hlow, toRat_one]
  obtain ⟨m, e, hm, hunits⟩ := hx
  rw [le_iff, hunits, hone] at hlow
  rw [le_iff, hunits, whole, hscale] at hhigh
  rw [hunits, hone]
  rcases Nat.le_total e k with hle | hle
  · -- one lies on the grid of the number
    refine ⟨m - 2 ^ (k - e), e, lt_of_le_of_lt (Nat.sub_le _ _) hm, ?_⟩
    rw [Nat.sub_mul, ← Nat.pow_add, Nat.sub_add_cancel hle]
  · -- the number is whole, and so is what is left
    have hsplit : m * 2 ^ e = m * 2 ^ (e - k) * 2 ^ k := by
      rw [Nat.mul_assoc, ← Nat.pow_add, Nat.sub_add_cancel hle]
    rw [hsplit] at hhigh hlow ⊢
    have hwhole : m * 2 ^ (e - k) ≤ 2 ^ 53 := Nat.le_of_mul_le_mul_right hhigh (Nat.two_pow_pos k)
    exact ⟨m * 2 ^ (e - k) - 1, k, by omega, by rw [Nat.sub_mul, Nat.one_mul]⟩

lemma leastNormal_le : leastNormal ≤ 1 / 2 ^ 200 := by
  obtain ⟨k, hk, hscale⟩ := scale_eq_two_pow
  have hlarge : (2 : ℚ) ^ 252 ≤ scale := by
    rw [hscale]
    exact_mod_cast Nat.pow_le_pow_right (by decide : 0 < 2) (by omega : 252 ≤ k)
  rw [leastNormal, div_le_div_iff₀ scale_pos (by positivity), ← pow_add, one_mul]
  exact hlarge

end Admission.Binary64
