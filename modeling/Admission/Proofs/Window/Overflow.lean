/-
# Window arithmetic that stops at an overflow

Words of 64 bits wrap around where a result does not fit.  `position?` computes the place of a
moment with operations that stop there instead, and it stops exactly if the end of the window is
out of reach (`position?_eq`).

A clock that shows a number with a sign never gets there.  On it the place is that of division on
natural numbers, and time that goes on stays in a window up to its last millisecond and no longer
(`position_exact_on_signed_clock`).
-/
import Admission.Proofs.Window.Position

namespace Admission.Window

/-! ## Words -/

/-- A number as a word, if it fits one. -/
def word? (n : Nat) : Option UInt64 :=
  if n < UInt64.size then some (.ofNat n) else none

/-- The quotient of two words, unless it is one by zero. -/
def quotient? (a b : UInt64) : Option UInt64 :=
  if b = 0 then none else word? (a.toNat / b.toNat)

/-- The difference of two words, unless it is below zero. -/
def difference? (a b : UInt64) : Option UInt64 :=
  if a.toNat < b.toNat then none else word? (a.toNat - b.toNat)

/-- The place of a moment, if no operation on the way to it overflows. -/
def position? (wall : UInt64) (window : Duration) : Option Position := do
  let length := lengthMillis window
  let epoch ← quotient? wall length
  let next ← word? (epoch.toNat + 1)
  let windowEnd ← word? (next.toNat * length.toNat)
  let remaining ← difference? windowEnd wall
  return ⟨epoch, remaining⟩

lemma word?_of_toNat_eq {n : Nat} {w : UInt64} (h : w.toNat = n) : word? n = some w := by
  subst h
  rw [word?, if_pos w.toNat_lt_size, UInt64.ofNat_toNat]

lemma word?_eq_none {n : Nat} (h : UInt64.size ≤ n) : word? n = none :=
  if_neg (Nat.not_lt_of_le h)

lemma quotient?_of_pos {a b : UInt64} (h : 0 < b.toNat) : quotient? a b = some (a / b) := by
  have hne : b ≠ 0 := by
    rintro rfl
    exact absurd h (by decide)
  rw [quotient?, if_neg hne, word?_of_toNat_eq (UInt64.toNat_div a b)]

lemma difference?_of_le {a b : UInt64} (h : b.toNat ≤ a.toNat) :
    difference? a b = some (a - b) := by
  rw [difference?, if_neg (Nat.not_lt_of_le h)]
  exact word?_of_toNat_eq (UInt64.toNat_sub_of_le _ _ (UInt64.le_iff_toNat_le.2 h))

/-! ## Positions -/

variable {wall : UInt64} {window : Duration}

instance (wall : UInt64) (window : Duration) : Decidable (InReach wall window) :=
  inferInstanceAs (Decidable (_ < _))

lemma quotient?_lengthMillis (wall : UInt64) (window : Duration) :
    quotient? wall (lengthMillis window) = some (wall / lengthMillis window) := by
  refine quotient?_of_pos ?_
  rw [toNat_lengthMillis]
  exact windowMillis_pos window

lemma position?_of_inReach (h : InReach wall window) :
    position? wall window = some (position wall window) := by
  have hepoch : (wall / lengthMillis window).toNat = wall.toNat / windowMillis window :=
    toNat_epoch wall window
  have hnext : word? ((wall / lengthMillis window).toNat + 1) =
      some (wall / lengthMillis window + 1) :=
    word?_of_toNat_eq (by rw [toNat_next h, hepoch])
  have hend : word? ((wall / lengthMillis window + 1).toNat * (lengthMillis window).toNat) =
      some ((wall / lengthMillis window + 1) * lengthMillis window) :=
    word?_of_toNat_eq (by rw [toNat_windowEnd h, toNat_next h, toNat_lengthMillis])
  have hremaining : difference? ((wall / lengthMillis window + 1) * lengthMillis window) wall =
      some ((wall / lengthMillis window + 1) * lengthMillis window - wall) := by
    refine difference?_of_le ?_
    rw [toNat_windowEnd h]
    exact Nat.le_of_lt (lt_windowEnd _ _)
  simp only [position?, quotient?_lengthMillis, hnext, hend, hremaining, Option.bind_eq_bind,
    Option.bind_some, Option.pure_def]
  rfl

/-- If the end of the window is out of reach, the number of the next window does not fit a word, or
the product with its length does not. -/
lemma position?_of_not_inReach (h : ¬ InReach wall window) : position? wall window = none := by
  have hepoch : (wall / lengthMillis window).toNat = wall.toNat / windowMillis window :=
    toNat_epoch wall window
  have hend : UInt64.size ≤ (wall.toNat / windowMillis window + 1) * windowMillis window :=
    Nat.le_of_not_lt h
  rw [position?, quotient?_lengthMillis, Option.bind_eq_bind, Option.bind_some, hepoch]
  by_cases hlarge : UInt64.size ≤ wall.toNat / windowMillis window + 1
  · rw [word?_eq_none hlarge]
    rfl
  · obtain ⟨next, hnext⟩ : ∃ next : UInt64, next.toNat = wall.toNat / windowMillis window + 1 :=
      ⟨.ofNat _, UInt64.toNat_ofNat_of_lt' (Nat.lt_of_not_le hlarge)⟩
    rw [word?_of_toNat_eq hnext]
    simp only [Option.bind_some, hnext, toNat_lengthMillis, word?_eq_none hend,
      Option.bind_none]

lemma position?_eq (wall : UInt64) (window : Duration) :
    position? wall window = if InReach wall window then some (position wall window) else none := by
  split
  · exact position?_of_inReach ‹_›
  · exact position?_of_not_inReach ‹_›

example : position? 18446744073709551615 (.ofMillis 1) = none := by decide +kernel

/-! ## Clocks that show a number with a sign -/

/-- A later moment is in a later window exactly if the end of this one has come. -/
lemma epoch_eq_iff {n later length : Nat} (hlength : 0 < length) (hle : n ≤ later) :
    n / length = later / length ↔ later < (n / length + 1) * length := by
  have hmono : n / length ≤ later / length := Nat.div_le_div_right hle
  rw [← Nat.div_lt_iff_lt_mul hlength]
  omega

/-- **Window arithmetic is exact on a clock that shows a number with a sign.**  For a window of any
length, no operation on the way to the place of a moment overflows.  The moment lies in the window
that the place names, and what is left of it leads exactly to its end.  A later moment is never in
an earlier window, and it is in the same window if and only if it comes before that end. -/
theorem position_exact_on_signed_clock {wall : UInt64} (h : wall.toNat < signedLimit)
    (window : Duration) :
    let length := max 1 (window.millis % UInt64.size)
    let place := position wall window
    position? wall window = some place ∧
      place.epoch.toNat * length ≤ wall.toNat ∧ wall.toNat < (place.epoch.toNat + 1) * length ∧
      1 ≤ place.remaining.toNat ∧ place.remaining.toNat ≤ length ∧
      wall.toNat + place.remaining.toNat = (place.epoch.toNat + 1) * length ∧
      ∀ later : UInt64, wall ≤ later →
        place.epoch ≤ (position later window).epoch ∧
          (place.epoch = (position later window).epoch ↔
            later.toNat < wall.toNat + place.remaining.toNat) := by
  intro length place
  have hlength : 0 < length := windowMillis_pos window
  have hreach : InReach wall window := inReach_of_lt h
  have hepoch : place.epoch.toNat = wall.toNat / length := toNat_epoch wall window
  have hremaining : place.remaining.toNat = (wall.toNat / length + 1) * length - wall.toNat :=
    toNat_remaining hreach
  have hlow : wall.toNat / length * length ≤ wall.toNat := Nat.div_mul_le_self _ _
  have hhigh : wall.toNat < (wall.toNat / length + 1) * length := lt_windowEnd _ window
  have hend : (wall.toNat / length + 1) * length = wall.toNat / length * length + length :=
    Nat.succ_mul _ _
  rw [hepoch, hremaining]
  refine ⟨by rw [position?_eq, if_pos hreach], hlow, hhigh, by omega, by omega, by omega, ?_⟩
  intro later hle
  have hepoch' : (position later window).epoch.toNat = later.toNat / length :=
    toNat_epoch later window
  have hle' : wall.toNat ≤ later.toNat := UInt64.le_iff_toNat_le.1 hle
  constructor
  · rw [UInt64.le_iff_toNat_le, hepoch, hepoch']
    exact Nat.div_le_div_right hle'
  · rw [← UInt64.toNat_inj, hepoch, hepoch', Nat.add_sub_of_le (Nat.le_of_lt hhigh)]
    exact epoch_eq_iff hlength hle'

/-- The longest window there is, at the last moment of the clock, and a window of less than a
millisecond. -/
theorem position_exact_at_last_moment :
    position? 9223372036854775807 (.ofMillis 18446744073709551615) =
        some ⟨0, 9223372036854775808⟩ ∧
      position? 42 ⟨10000⟩ = some ⟨42, 1⟩ ∧
        (position 42 ⟨10000⟩).epoch ≠ (position 43 ⟨10000⟩).epoch := by
  have hlast : (9223372036854775807 : UInt64).toNat < signedLimit := by decide
  have hearly : (42 : UInt64).toNat < signedLimit := by decide
  have hlong := position_exact_on_signed_clock hlast (.ofMillis 18446744073709551615)
  have hshort := position_exact_on_signed_clock hearly ⟨10000⟩
  refine ⟨hlong.1.trans (by decide +kernel), hshort.1.trans (by decide +kernel), fun heq => ?_⟩
  obtain ⟨-, -, -, -, -, -, hlater⟩ := hshort
  have hbefore := (hlater 43 (by decide)).2.1 heq
  exact absurd hbefore (by decide +kernel)

end Admission.Window
