/-
# Levels and rounding

The level of a bucket is compared here with what it would be if nothing were rounded (`exactLevel`).
A refill is right but for a small part of the capacity (`abs_refill_sub_le`), however much comes in,
and so is a reservation (`abs_reserve_sub_le`).  Without rounding, what comes in during two times is
what comes in during both together (`exactLevel_later`).
-/
import Admission.Proofs.Bucket.Plans
import Admission.Proofs.Bucket.Stale

namespace Admission.Bucket

open Binary64 (Rounded kept grown leastNormal one)

/-- The tokens that a bucket would hold at an instant if nothing were rounded since its last
refill. -/
def exactLevel (b : Bucket) (p : Plan) (now : Instant) : ℚ :=
  min (b.tokens.toRat + (b.credited now).nanos / 10 ^ 9 * p.rate.toRat) p.capacity.toRat

/-- What is left of a level by a reservation, if nothing is rounded. -/
def spent (level : ℚ) : ℚ := if 1 ≤ level then level - 1 else level

variable {quota : UInt64} {interval : Duration} {b : Bucket} {p : Plan} {now t : Instant}

/-! ## Rounding -/

/-- A sum that is cut off at the capacity is wrong by a small part of it at most. -/
lemma abs_min_sub_min_le {x y c : ℚ} (h : Rounded 4 x y) (hx : 0 ≤ x) (hc : 0 ≤ c) :
    |min y c - min x c| ≤ 5 / 2 ^ 53 * c := by
  have hhigh : y ≤ (1 + 5 / 2 ^ 53) * x :=
    h.le_grown.trans (mul_le_mul_of_nonneg_right (by norm_num [grown]) hx)
  have hlow : (1 - 5 / 2 ^ 53) * x ≤ y :=
    (mul_le_mul_of_nonneg_right (by norm_num [kept]) hx).trans h.kept_le
  rw [abs_sub_le_iff]
  constructor
  · rcases le_total x c with hle | hle
    · rw [min_eq_left hle]
      linarith [min_le_left y c]
    · rw [min_eq_right hle]
      linarith [min_le_right y c]
  · rcases le_total y c with hle | hle
    · rw [min_eq_left hle]
      linarith [min_le_left x c, min_le_right x c]
    · rw [min_eq_right hle]
      linarith [min_le_right x c]

/-- What comes in during a time is rounded three times. -/
lemma rounded_income (quota : UInt64) (hinterval : interval.seconds < Duration.secondsLimit)
    {time : Duration} (htime : 0 < time.nanos) :
    Rounded 3 (time.nanos / 10 ^ 9 * (Plan.make quota interval).rate.toRat)
      (time.asSeconds * (Plan.make quota interval).rate).toRat := by
  rcases Nat.eq_zero_or_pos quota.toNat with hnone | hquota
  · rw [rate_eq_zero hnone, Binary64.mul_zero, Binary64.toRat_zero, mul_zero]
    exact (Rounded.refl 0).mono (le_refl 0) (Nat.zero_le 3)
  have hrate := le_rate hquota hinterval
  have hnanos : (1 : ℚ) ≤ time.nanos := Nat.one_le_cast.2 htime
  have hseconds : kept ^ 2 * (1 / 10 ^ 9) ≤ time.asSeconds.toRat :=
    le_trans (by gcongr) time.rounded_asSeconds.kept_le
  have hnormal : leastNormal ≤ time.asSeconds.toRat * (Plan.make quota interval).rate.toRat := by
    calc leastNormal ≤ kept ^ 2 * (1 / 10 ^ 9) * (1 / 2 ^ 66) :=
          Binary64.leastNormal_le.trans (by norm_num [kept])
      _ ≤ time.asSeconds.toRat * (Plan.make quota interval).rate.toRat :=
          mul_le_mul hseconds hrate (by positivity) (Binary64.toRat_nonneg _)
  exact (time.rounded_asSeconds.mul_right (Binary64.toRat_nonneg _)).trans
    (Binary64.rounded_mul hnormal)

/-- A refill gives what the time is worth, but for a small part of the capacity. -/
lemma abs_refill_sub_le (quota : UInt64) (hinterval : interval.seconds < Duration.secondsLimit)
    (hlevel : b.tokens ≤ (Plan.make quota interval).capacity) (now : Instant) :
    |(b.refill (Plan.make quota interval) now).tokens.toRat -
        b.exactLevel (Plan.make quota interval) now| ≤
      5 / 2 ^ 53 * (Plan.make quota interval).capacity.toRat := by
  have hcapacity := (Plan.make quota interval).capacity.toRat_nonneg
  have htokens := b.tokens.toRat_nonneg
  rw [tokens_refill, exactLevel]
  split
  · rename_i hzero
    rw [hzero, Nat.cast_zero, zero_div, zero_mul, add_zero,
      min_eq_left (Binary64.toRat_le_toRat.2 hlevel), sub_self, abs_zero]
    positivity
  · rename_i htime
    have hincome := rounded_income quota hinterval (Nat.pos_of_ne_zero htime)
    have hnonneg : 0 ≤ ((b.credited now).nanos : ℚ) / 10 ^ 9 *
        (Plan.make quota interval).rate.toRat :=
      mul_nonneg (by positivity) (Binary64.toRat_nonneg _)
    have hsum := (((Rounded.refl b.tokens.toRat).mono htokens (Nat.zero_le 3)).add hincome).trans
      (Binary64.rounded_add _ _)
    rw [Binary64.toRat_min]
    exact abs_min_sub_min_le hsum (by linarith) hcapacity

/-- A reservation takes a token, but for a small part of the capacity. -/
lemma abs_reserve_sub_le (hlevel : b.tokens ≤ p.capacity) (now : Instant) :
    |(b.reserve p now).1.tokens.toRat - spent (b.refill p now).tokens.toRat| ≤
      1 / 2 ^ 53 * p.capacity.toRat := by
  have hfilled := Binary64.toRat_le_toRat.2 (tokens_refill_le hlevel now)
  have hcapacity := p.capacity.toRat_nonneg
  rw [spent]
  split
  · rename_i htoken
    rw [← Binary64.toRat_one, Binary64.toRat_le_toRat] at htoken
    have hround := Binary64.rounded_sub (Binary64.toRat_le_toRat.2 htoken)
    have hlow := hround.kept_le
    have hhigh := hround.le_grown
    rw [Binary64.toRat_one, pow_one] at hlow hhigh
    rw [fst_reserve_of_token htoken]
    dsimp only
    rw [kept] at hlow
    rw [grown] at hhigh
    rw [abs_sub_le_iff]
    constructor <;> linarith
  · rename_i hmissing
    rw [← Binary64.toRat_one, Binary64.toRat_le_toRat] at hmissing
    rw [fst_reserve_of_missing hmissing, sub_self, abs_zero]
    positivity

/-! ## Levels without rounding -/

/-- A bucket as it can stand at an instant.  If it has not been used, it is full. -/
structure Started (b : Bucket) (p : Plan) (now : Instant) : Prop extends b.Sound p now where
  unused : b.refilledAt = none → b.tokens = p.capacity

lemma Started.later (h : b.Started p now) (hle : now.nanos ≤ t.nanos) : b.Started p t :=
  ⟨h.toSound.later hle, h.unused⟩

lemma Started.refill (h : b.Started p now) : (b.refill p now).Started p now :=
  ⟨h.toSound.refill, fun hnone => absurd (h.refilledAt_refill.symm.trans hnone) (by simp)⟩

lemma Started.reserve (hp : Binary64.Exact p.capacity.units) (h : b.Started p now) :
    (b.reserve p now).1.Started p now := by
  refine ⟨h.toSound.reserve hp, fun hnone => ?_⟩
  rw [refilledAt_reserve, h.refilledAt_refill] at hnone
  exact absurd hnone (by simp)

/-- A bucket that has just been refilled holds what it would hold without rounding. -/
lemma exactLevel_of_refilledAt (h : b.refilledAt = some now) (hlevel : b.tokens ≤ p.capacity) :
    b.exactLevel p now = b.tokens.toRat := by
  have hnone : (b.credited now).nanos = 0 := by
    rw [credited, h]
    exact Nat.sub_self now.nanos
  rw [exactLevel, hnone, Nat.cast_zero, zero_div, zero_mul, add_zero,
    min_eq_left (Binary64.toRat_le_toRat.2 hlevel)]

/-- Without rounding, what comes in up to an instant and from then on adds up. -/
lemma exactLevel_later (h : b.Started p now) (hle : now.nanos ≤ t.nanos) :
    b.exactLevel p t =
      min (b.exactLevel p now + (t.since now).nanos / 10 ^ 9 * p.rate.toRat)
        p.capacity.toRat := by
  have hincome : 0 ≤ ((t.since now).nanos : ℚ) / 10 ^ 9 * p.rate.toRat :=
    mul_nonneg (by positivity) p.rate.toRat_nonneg
  rw [exactLevel, exactLevel]
  cases hrefilled : b.refilledAt with
  | none =>
    have hnone : ∀ t', (b.credited t').nanos = 0 := fun t' => by rw [credited, hrefilled]
    rw [hnone, hnone, h.unused hrefilled, Nat.cast_zero, zero_div, zero_mul, add_zero, min_self,
      min_eq_right (by linarith)]
  | some last =>
    have hlast := h.refilled_le last hrefilled
    have hparts : (b.credited t).nanos = (b.credited now).nanos + (t.since now).nanos := by
      simp only [credited, hrefilled, Instant.since]
      omega
    rw [hparts, Nat.cast_add, add_div, add_mul, ← add_assoc]
    generalize b.tokens.toRat + ((b.credited now).nanos : ℚ) / 10 ^ 9 * p.rate.toRat = level
    rcases le_total level p.capacity.toRat with hfit | hfull
    · rw [min_eq_left hfit]
    · rw [min_eq_right hfull, min_eq_right (by linarith), min_eq_right (by linarith)]

end Admission.Bucket
