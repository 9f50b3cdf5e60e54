/-
# Written durations

A duration is written as a natural number of one unit.  When that is read again, it goes through the
binary64 numbers: the nanoseconds are rounded to 53 bits, and they must fit 64 bits
(`parse_format`).  So exactly those durations come back that are numbers of the format, together
with the longest one that fits, which the limit is read as (`format_comes_back_iff`).
-/
import Admission.Proofs.Duration.Grammar

namespace Admission.Duration

open Binary64 (Exact whole)
open Text

/-- A duration is written as a natural number of one unit, which is a nanosecond, or at least a
millisecond. -/
lemma exists_format_eq (d : Duration) :
    ∃ (n : Nat) (u : TimeUnit), format d = String.ofList (numeral n ++ u.text) ∧
      n * u.nanos = d.nanos ∧ (u = .nanoseconds ∨ 1000000 ≤ u.nanos) := by
  have htext : ∀ (n : Nat) (u : TimeUnit), toString n ++ String.ofList u.text =
      String.ofList (numeral n ++ u.text) := by
    intro n u
    rw [String.ofList_append]
    rfl
  rw [format]
  split
  · exact ⟨d.nanos, .nanoseconds, htext _ .nanoseconds, Nat.mul_one _, .inl rfl⟩
  · rename_i hmillis
    split
    · refine ⟨d.millis, .milliseconds, htext _ .milliseconds, ?_, .inr (by decide)⟩
      simp only [TimeUnit.nanos, millis]
      omega
    · rename_i hseconds
      rw [millis] at hseconds
      split
      · rename_i hhours
        refine ⟨d.seconds / 3600, .hours, htext _ .hours, ?_, .inr (by decide)⟩
        simp only [TimeUnit.nanos, seconds] at hhours ⊢
        omega
      · split
        · rename_i hminutes
          refine ⟨d.seconds / 60, .minutes, htext _ .minutes, ?_, .inr (by decide)⟩
          simp only [TimeUnit.nanos, seconds] at hminutes ⊢
          omega
        · refine ⟨d.seconds, .seconds, htext _ .seconds, ?_, .inr (by decide)⟩
          simp only [TimeUnit.nanos, seconds]
          omega

/-- Totals from 2⁶⁵ ns on do not fit. -/
lemma ofTotal?_of_large {sum : Binary64} (h : whole (2 ^ 65) ≤ sum) : ofTotal? sum = none := by
  rw [ofTotal?, if_neg]
  intro hfits
  have hle : whole (2 ^ 65) ≤ whole (2 ^ 64) := Binary64.le_trans h hfits
  rw [Binary64.whole_le_whole] at hle
  exact absurd hle (by decide)

/-- The sum of a single term is its value. -/
lemma total_singleton (t : Term) : total [t] = t.value :=
  Binary64.zero_add_of_exact (Binary64.exact_ofQuotient _ _)

/-- A duration that is written and read again is rounded once. -/
lemma parse_format (d : Duration) : parse (format d) = ofTotal? (.ofNat d.nanos) := by
  obtain ⟨n, u, hformat, hnanos, hunit⟩ := exists_format_eq d
  have hread : parse (format d) = ofTotal? (Term.ofNat n u).value := by
    have hterm := @parse_terms [.ofNat n u] (by simp) [] [] (by simp) (by simp)
    rw [List.flatMap_singleton, Term.text_ofNat, List.nil_append, List.append_nil] at hterm
    rw [hformat, hterm, total_singleton]
  rw [hread, ← hnanos]
  rcases Nat.lt_or_ge n (2 ^ 53) with hsmall | hlarge
  · rw [value_ofNat_of_lt hsmall]
  · rcases hunit with rfl | hmillis
    · -- a number of nanoseconds is not rounded a second time
      have hone : TimeUnit.nanoseconds.nanos = 1 := rfl
      rw [Term.value_ofNat, hone, Binary64.mul_ofNat_one (Binary64.exact_ofNat n), Nat.mul_one]
    · -- far too long, rounded or not
      have hexact : Exact (2 ^ 53 * 1000000) := ⟨1000000, 53, by decide, by decide⟩
      have hlimit : whole (2 ^ 65) ≤ whole (2 ^ 53 * 1000000) :=
        Binary64.whole_le_whole.2 (by decide)
      have hvalue : whole (2 ^ 53 * 1000000) ≤ (Term.ofNat n u).value := by
        have hfactor := Binary64.le_ofNat (Binary64.exact_two_pow 53) hlarge
        rw [Term.value_ofNat]
        refine Binary64.whole_le_mul hexact hfactor ?_
        rw [ofNat_nanos, Binary64.whole_le_whole]
        exact hmillis
      have hnanos : whole (2 ^ 53 * 1000000) ≤ .ofNat (n * u.nanos) :=
        Binary64.le_ofNat hexact (Nat.mul_le_mul hlarge hmillis)
      rw [ofTotal?_of_large (Binary64.le_trans hlimit hvalue),
        ofTotal?_of_large (Binary64.le_trans hlimit hnanos)]

/-- The longest duration that is read from a sequence is written with more digits than a number of
the format has, and the limit that it is rounded to is read as the duration itself. -/
lemma ofTotal?_longest : ofTotal? (.ofNat (2 ^ 64 - 1)) = some ⟨2 ^ 64 - 1⟩ := by
  decide +kernel

lemma ofTotal?_ofNat_eq_some_iff {n : Nat} :
    ofTotal? (.ofNat n) = some ⟨n⟩ ↔ n = 2 ^ 64 - 1 ∨ n < 2 ^ 64 ∧ Exact n := by
  constructor
  · intro h
    rw [ofTotal?] at h
    split at h
    · have hn : min (Binary64.ofNat n).round (2 ^ 64 - 1) = n :=
        Duration.mk.inj (Option.some.inj h)
      rcases Nat.le_total (Binary64.ofNat n).round (2 ^ 64 - 1) with hle | hle
      · rw [Nat.min_eq_left hle] at hn
        exact .inr ⟨by omega, hn ▸ Binary64.exact_round_ofNat n⟩
      · rw [Nat.min_eq_right hle] at hn
        exact .inl hn.symm
    · exact absurd h (by simp)
  · rintro (rfl | ⟨hlt, hexact⟩)
    · exact ofTotal?_longest
    · rw [Binary64.ofNat_eq_whole hexact, ofTotal?_whole hlt]

/-- **A written duration comes back if it is a number of the format.**  What is read from a written
duration is its number of nanoseconds, rounded to a binary64 number, if that fits 64 bits, and
nothing otherwise.  So it is the duration itself exactly if the nanoseconds are such a number below
2⁶⁴, or the longest duration below 2⁶⁴ ns. -/
theorem format_comes_back_iff (d : Duration) :
    parse (format d) = ofTotal? (.ofNat d.nanos) ∧
    (parse (format d) = some d ↔ d.nanos = 2 ^ 64 - 1 ∨ d.nanos < 2 ^ 64 ∧ Exact d.nanos) := by
  refine ⟨parse_format d, ?_⟩
  rw [parse_format]
  exact ofTotal?_ofNat_eq_some_iff

/-- A duration of 104 days comes back a nanosecond short, and one of 585 years does not come back
at all, although it can be given as a number of seconds. -/
theorem long_durations_do_not_come_back :
    parse (format ⟨2 ^ 53 + 1⟩) = some ⟨2 ^ 53⟩ ∧
      parse "18446744074" = some (.ofSeconds 18446744074) ∧
        parse (format (.ofSeconds 18446744074)) = none := by
  refine ⟨?_, ?_, ?_⟩
  · rw [parse_format]
    decide +kernel
  · decide +kernel
  · rw [parse_format]
    decide +kernel

end Admission.Duration
