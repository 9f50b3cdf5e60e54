/-
# Durations as numbers of seconds

A duration becomes a number of seconds in two roundings, of the seconds and of the fraction before
they are added, and a number of seconds becomes a duration in one more.  This file says how far
the results can be off.
-/
import Admission.Duration
import Admission.Proofs.Binary64.Error

namespace Admission.Duration

open Binary64 (leastNormal)

variable {d : Duration} {x : Binary64}

lemma toRat_nanosPerSecond : (Binary64.ofNat 1000000000).toRat = 10 ^ 9 := by
  rw [Binary64.toRat_ofNat (by decide)]
  norm_num

lemma toRat_subsecondNanos (d : Duration) :
    (Binary64.ofNat d.subsecondNanos).toRat = d.subsecondNanos := by
  have hlt : d.subsecondNanos < 10 ^ 9 := Nat.mod_lt _ (by decide)
  exact Binary64.toRat_ofNat (by omega)

/-- The fraction of a second is rounded once. -/
lemma rounded_fraction (d : Duration) :
    Binary64.Rounded 1 (d.subsecondNanos / 10 ^ 9)
      (.ofNat d.subsecondNanos / .ofNat 1000000000 : Binary64).toRat := by
  have hnanos := d.toRat_subsecondNanos
  have hsecond := toRat_nanosPerSecond
  rcases Nat.eq_zero_or_pos d.subsecondNanos with hzero | hpos
  · rw [hzero, Binary64.ofNat_zero, Binary64.zero_div, Binary64.toRat_zero, Nat.cast_zero, zero_div]
    exact (Binary64.Rounded.refl 0).mono (le_refl 0) (Nat.zero_le 1)
  · have hone : (1 : ℚ) ≤ d.subsecondNanos := Nat.one_le_cast.2 hpos
    have hnormal : leastNormal ≤ d.subsecondNanos / 10 ^ 9 := by
      have := Binary64.leastNormal_le
      rw [le_div_iff₀ (by norm_num)]
      linarith
    have hround := Binary64.rounded_div (x := .ofNat d.subsecondNanos)
      (y := .ofNat 1000000000) (by rw [hsecond]; norm_num) (by rwa [hnanos, hsecond])
    rwa [hnanos, hsecond] at hround

/-- A duration that is read as seconds is rounded at most twice. -/
lemma rounded_asSeconds (d : Duration) :
    Binary64.Rounded 2 (d.nanos / 10 ^ 9) d.asSeconds.toRat := by
  have hnanos : (d.nanos : ℚ) = d.seconds * 10 ^ 9 + d.subsecondNanos := by
    have hsplit := Nat.div_add_mod' d.nanos 1000000000
    exact_mod_cast hsplit.symm
  have hparts : (d.nanos : ℚ) / 10 ^ 9 = d.seconds + d.subsecondNanos / 10 ^ 9 := by
    rw [hnanos]
    ring
  rw [hparts]
  exact ((Binary64.rounded_ofNat d.seconds).add d.rounded_fraction).trans
    (Binary64.rounded_add _ _)

lemma fraction_le (d : Duration) :
    (.ofNat d.subsecondNanos / .ofNat 1000000000 : Binary64).toRat ≤ 2 ^ 0 := by
  have hlt : d.subsecondNanos < 10 ^ 9 := Nat.mod_lt _ (by decide)
  have hle : (d.subsecondNanos : ℚ) ≤ 10 ^ 9 := by exact_mod_cast hlt.le
  refine Binary64.div_le_twoPow (by rw [toRat_nanosPerSecond]; norm_num) ?_
  rw [toRat_nanosPerSecond, d.toRat_subsecondNanos]
  linarith

lemma asSeconds_le (h : d.seconds < secondsLimit) : d.asSeconds.toRat ≤ 2 ^ 65 := by
  have hseconds : (Binary64.ofNat d.seconds).toRat ≤ 2 ^ 64 := Binary64.ofNat_le_twoPow h.le
  have hfraction := d.fraction_le
  exact Binary64.add_le_twoPow (by linarith)

/-- The duration that is read off a number of seconds is at most half a nanosecond short. -/
lemma le_of_ofSeconds? (h : ofSeconds? x = some d) : x.toRat * 10 ^ 9 ≤ d.nanos + 1 / 2 := by
  rw [ofSeconds?] at h
  split at h
  · obtain rfl := Option.some.inj h
    have hscale := Binary64.scale_pos
    have hround : 2 * (x.units * 1000000000) ≤ _ :=
      Binary64.two_mul_le_roundQuotient (Nat.cast_pos.1 hscale)
    have hcast : (2 : ℚ) * (x.units * 1000000000) ≤
        (2 * Binary64.roundQuotient (x.units * 1000000000) Binary64.scale + 1) * Binary64.scale :=
      by exact_mod_cast hround
    rw [Binary64.toRat, div_mul_eq_mul_div, div_le_iff₀ hscale]
    linarith
  · exact absurd h (by simp)

end Admission.Duration
