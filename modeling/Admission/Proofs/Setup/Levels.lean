/-
# The levels of buckets whatever their settings

What a bucket holds, and what it waits for, is told by its quota and its interval, and these come
from settings.  Here the two meet: the levels of a bucket stay in their range for every quota and
every interval, and the one thing that can go wrong, a delay too long for a duration, needs an
interval that no whole number in the settings gives (`levels_stay_in_range`).
-/
import Admission.Proofs.Bucket.Gauge
import Admission.Proofs.Config.Intervals

namespace Admission.Bucket

open Binary64 (Signed)

variable {interval : Duration} {uses : List Use} {now : Instant}

/-- **The level of a bucket stays in its range.**  A bucket is used at any instants, in any order.
Kept in numbers with all their special values, it always holds a finite number of tokens between
none and its quota, it answers like the bucket, and what it waits for is finite and not negative.
If a reservation has no answer, then the interval is 2⁶³ seconds or longer, which is longer than a
setting that is a whole number can give, and the reservation does no more than reading the level
does. -/
theorem levels_stay_in_range (quota : UInt64) (made : Option Instant)
    (hinterval : interval.seconds < Duration.secondsLimit)
    (huses : ∀ use ∈ uses, use.now.Reached) (hnow : now.Reached) :
    let p := Plan.make quota interval
    let b := uses.foldl (next p) (new p made)
    let q := Gauge.Plan.make quota interval
    let g := uses.foldl (Gauge.next q) (Gauge.new q made)
    (g.tokens = .finite false b.tokens ∧ b.tokens ≤ .ofNat quota.toNat) ∧
      (∀ x, (g.refill q now).wait? q = some x → ∃ y, x = .finite false y) ∧
      (g.refill q now = (b.refill p now).gauge ∧
        g.reserve q now = ((b.reserve p now).1.gauge, (b.reserve p now).2)) ∧
      ((b.reserve p now).2 = none →
        2 ^ 63 ≤ interval.seconds ∧ next p b (.reserve now) = next p b (.tokens now)) ∧
      ∀ origin n, Text.isSmall n = true →
        (Config.textDuration? (.leaf origin (.int n)) = some interval ∨
          Config.settingsFormat.duration (.leaf origin (.int n)) = .ok interval) →
        interval.seconds < 2 ^ 63 := by
  intro p b q g
  have hnew : (new p made).tokens ≤ p.capacity := Nat.le_refl _
  obtain ⟨hgauge, hlevel⟩ := foldl_gauge hnew hinterval huses
  have hq : q = p.gauge := make_gauge hinterval
  have hg : g = b.gauge := by
    rw [← hgauge]
    simp only [g, hq]
    rfl
  have hrefill : g.refill q now = (b.refill p now).gauge := by
    rw [hg, hq]
    exact refill_gauge hlevel hnow
  refine ⟨⟨?_, hlevel⟩, fun x hx => ?_, ⟨hrefill, ?_⟩, fun hanswer => ?_, ?_⟩
  · rw [hg, tokens_gauge]
  · rw [hrefill, hq] at hx
    exact finite_of_wait? hinterval hx
  · rw [hg, hq]
    exact reserve_gauge hinterval hlevel hnow
  · exact of_reserve_eq_none hanswer
  · exact fun origin n hsmall hread => Config.seconds_of_int_lt hsmall hread

/-- One token in the longest interval: the time until the next one is not a duration. -/
theorem delay_beyond_durations :
    let interval := Duration.ofSeconds 18446744073709551615
    let p := Plan.make 1 interval
    let b := [Use.reserve ⟨5⟩, .tokens ⟨3⟩].foldl (next p) (new p (some ⟨4⟩))
    (b.reserve p ⟨1000000000⟩).2 = none ∧ 2 ^ 63 ≤ interval.seconds ∧
      next p b (.reserve ⟨1000000000⟩) = next p b (.tokens ⟨1000000000⟩) := by
  intro interval p b
  have hanswer : (b.reserve p ⟨1000000000⟩).2 = none := by decide +kernel
  have hinterval : interval.seconds < Duration.secondsLimit := by decide
  have huses : ∀ use ∈ [Use.reserve ⟨5⟩, .tokens ⟨3⟩], use.now.Reached := by decide
  have hnow : Instant.Reached ⟨1000000000⟩ := by decide
  obtain ⟨-, -, -, hnone, -⟩ := levels_stay_in_range 1 (some ⟨4⟩) hinterval huses hnow
  exact ⟨hanswer, hnone hanswer⟩

end Admission.Bucket
