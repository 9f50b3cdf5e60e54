/-
# Plans

The capacity and the rate of a bucket are worked out once, from its quota and its interval.  The
interval is a millisecond or longer and fits a duration, so the rate of a bucket with a quota is
neither very small nor very large.
-/
import Admission.Bucket
import Admission.Proofs.Duration.Seconds

namespace Admission.Bucket

open Binary64 (kept)

variable {quota : UInt64} {interval : Duration}

lemma capacity_make (quota : UInt64) (interval : Duration) :
    (Plan.make quota interval).capacity = .ofNat quota.toNat :=
  rfl

lemma rate_make (quota : UInt64) (interval : Duration) :
    (Plan.make quota interval).rate =
      .ofNat quota.toNat / (interval.longer minInterval).asSeconds :=
  rfl

lemma capacity_le (quota : UInt64) (interval : Duration) :
    (Plan.make quota interval).capacity.toRat ≤ 2 ^ 64 :=
  Binary64.ofNat_le_twoPow quota.toNat_lt.le

lemma one_le_capacity (interval : Duration) (hquota : 0 < quota.toNat) :
    1 ≤ (Plan.make quota interval).capacity.toRat := by
  rw [← Binary64.toRat_one, Binary64.toRat_le_toRat]
  exact Binary64.one_le_ofNat hquota

/-! ## The interval -/

/-- The interval of a plan is a millisecond or longer. -/
lemma le_asSeconds_interval (interval : Duration) :
    1 / 2 ^ 10 ≤ (interval.longer minInterval).asSeconds.toRat := by
  have hread := (interval.longer minInterval).rounded_asSeconds.kept_le
  have hmin : 1000000 ≤ (interval.longer minInterval).nanos := Nat.le_max_right _ _
  have hnanos : (1000000 : ℚ) ≤ (interval.longer minInterval).nanos := by exact_mod_cast hmin
  have hkept : kept ^ 2 * (1000000 / 10 ^ 9) ≥ 1 / 2 ^ 10 := by norm_num [kept]
  calc 1 / 2 ^ 10 ≤ kept ^ 2 * (1000000 / 10 ^ 9) := hkept
    _ ≤ kept ^ 2 * ((interval.longer minInterval).nanos / 10 ^ 9) := by gcongr
    _ ≤ (interval.longer minInterval).asSeconds.toRat := hread

lemma seconds_longer_lt {limit : Nat} (hlimit : 0 < limit) (hinterval : interval.seconds < limit) :
    (interval.longer minInterval).seconds < limit := by
  have hmin : minInterval.nanos = 1000000 := rfl
  simp only [Duration.seconds, Duration.longer] at hinterval ⊢
  omega

lemma asSeconds_interval_le (hinterval : interval.seconds < Duration.secondsLimit) :
    (interval.longer minInterval).asSeconds.toRat ≤ 2 ^ 65 :=
  Duration.asSeconds_le (seconds_longer_lt (by decide) hinterval)

/-! ## The rate -/

/-- The rate of a bucket with a quota is at least that of one token in the interval. -/
lemma kept_div_le_rate {limit : ℚ} (hquota : 0 < quota.toNat)
    (hseconds : (interval.longer minInterval).asSeconds.toRat ≤ limit) (hlimit : limit ≤ 2 ^ 65) :
    kept / limit ≤ (Plan.make quota interval).rate.toRat := by
  have hcapacity := one_le_capacity interval hquota
  have hlow := le_asSeconds_interval interval
  have hpos : 0 < (interval.longer minInterval).asSeconds.toRat := by linarith
  have hquotient : 1 / limit ≤
      (Binary64.ofNat quota.toNat).toRat / (interval.longer minInterval).asSeconds.toRat :=
    div_le_div₀ (Binary64.toRat_nonneg _) hcapacity hpos hseconds
  have hlarge : 1 / 2 ^ 65 ≤ 1 / limit := one_div_le_one_div_of_le (by linarith) hlimit
  have hnormal := Binary64.leastNormal_le.trans (le_trans (by norm_num) (hlarge.trans hquotient))
  rw [rate_make]
  calc kept / limit = kept * (1 / limit) := by ring
    _ ≤ kept *
        ((Binary64.ofNat quota.toNat).toRat / (interval.longer minInterval).asSeconds.toRat) :=
      mul_le_mul_of_nonneg_left hquotient Binary64.kept_pos.le
    _ ≤ _ := (Binary64.rounded_div hpos hnormal).kept_mul_le

lemma le_rate (hquota : 0 < quota.toNat) (hinterval : interval.seconds < Duration.secondsLimit) :
    1 / 2 ^ 66 ≤ (Plan.make quota interval).rate.toRat :=
  le_trans (by norm_num [kept])
    (kept_div_le_rate hquota (asSeconds_interval_le hinterval) (le_refl _))

lemma rate_pos (hquota : 0 < quota.toNat) (hinterval : interval.seconds < Duration.secondsLimit) :
    0 < (Plan.make quota interval).rate.toRat :=
  lt_of_lt_of_le (by positivity) (le_rate hquota hinterval)

lemma rate_le (quota : UInt64) (interval : Duration) :
    (Plan.make quota interval).rate.toRat ≤ 2 ^ 74 := by
  have hlow := le_asSeconds_interval interval
  have hcapacity := capacity_le quota interval
  rw [capacity_make] at hcapacity
  rw [rate_make]
  exact Binary64.div_le_twoPow (by linarith) (by linarith)

/-- Without a quota nothing comes in. -/
lemma rate_eq_zero (hquota : quota.toNat = 0) : (Plan.make quota interval).rate = ⟨0⟩ := by
  rw [rate_make, hquota, Binary64.ofNat_zero]
  exact Binary64.zero_div _

lemma quota_pos (hrate : Binary64.zero < (Plan.make quota interval).rate) : 0 < quota.toNat := by
  refine Nat.pos_of_ne_zero fun hnone => ?_
  rw [rate_eq_zero hnone] at hrate
  exact Nat.lt_irrefl 0 hrate

end Admission.Bucket
