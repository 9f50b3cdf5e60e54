/-
# Window arithmetic without overflow

The position of a moment is computed in 64 bits.  Here it is related to division on natural
numbers: the number of the window never overflows, and the time that is left is exact as long as
the end of the window still fits 64 bits (`InReach`), which holds of every clock that shows a
number with a sign (`inReach_of_lt`).
-/
import Admission.Window
import Mathlib.Tactic.Common

namespace Admission.Window

/-- The length of a window in milliseconds, as a natural number. -/
def windowMillis (window : Duration) : Nat :=
  max 1 (window.millis % UInt64.size)

/-- The end of the window that a moment lies in fits 64 bits. -/
def InReach (wall : UInt64) (window : Duration) : Prop :=
  (wall.toNat / windowMillis window + 1) * windowMillis window < UInt64.size

lemma windowMillis_pos (window : Duration) : 0 < windowMillis window := by
  rw [windowMillis]
  omega

lemma windowMillis_lt (window : Duration) : windowMillis window < UInt64.size := by
  have : window.millis % UInt64.size < UInt64.size := Nat.mod_lt _ (by decide)
  have : 1 < UInt64.size := by decide
  rw [windowMillis]
  omega

lemma toNat_lengthMillis (window : Duration) :
    (lengthMillis window).toNat = windowMillis window := by
  have hword : (UInt64.ofNat window.millis).toNat = window.millis % UInt64.size :=
    UInt64.toNat_ofNat'
  simp only [lengthMillis, windowMillis]
  split
  · rename_i hzero
    have : window.millis % UInt64.size = 0 := by rw [← hword, hzero]; rfl
    rw [this]
    rfl
  · rename_i hpos
    have : window.millis % UInt64.size ≠ 0 := by
      rw [← hword]
      exact fun h => hpos (UInt64.toNat_inj.1 h)
    rw [hword]
    omega

lemma toNat_epoch (wall : UInt64) (window : Duration) :
    (position wall window).epoch.toNat = wall.toNat / windowMillis window := by
  simp only [position]
  rw [UInt64.toNat_div, toNat_lengthMillis]

/-- A moment lies before the end of its window. -/
lemma lt_windowEnd (n : Nat) (window : Duration) :
    n < (n / windowMillis window + 1) * windowMillis window := by
  have := Nat.div_add_mod n (windowMillis window)
  have := Nat.mod_lt n (windowMillis_pos window)
  rw [Nat.add_mul, Nat.mul_comm, Nat.one_mul]
  omega

variable {wall : UInt64} {window : Duration}

lemma toNat_next (h : InReach wall window) :
    (wall / lengthMillis window + 1).toNat = wall.toNat / windowMillis window + 1 := by
  have hlt : (wall.toNat / windowMillis window + 1) * windowMillis window < UInt64.size := h
  have hle : wall.toNat / windowMillis window + 1
      ≤ (wall.toNat / windowMillis window + 1) * windowMillis window :=
    Nat.le_mul_of_pos_right _ (windowMillis_pos window)
  rw [UInt64.toNat_add, UInt64.toNat_div, toNat_lengthMillis]
  exact Nat.mod_eq_of_lt (Nat.lt_of_le_of_lt hle hlt)

lemma toNat_windowEnd (h : InReach wall window) :
    ((wall / lengthMillis window + 1) * lengthMillis window).toNat =
      (wall.toNat / windowMillis window + 1) * windowMillis window := by
  rw [UInt64.toNat_mul, toNat_next h, toNat_lengthMillis]
  exact Nat.mod_eq_of_lt h

lemma toNat_remaining (h : InReach wall window) :
    (position wall window).remaining.toNat =
      (wall.toNat / windowMillis window + 1) * windowMillis window - wall.toNat := by
  have hend := toNat_windowEnd h
  simp only [position]
  rw [UInt64.toNat_sub_of_le, hend]
  rw [UInt64.le_iff_toNat_le, hend]
  exact Nat.le_of_lt (lt_windowEnd _ _)

lemma remaining_pos (h : InReach wall window) : 0 < (position wall window).remaining.toNat := by
  rw [toNat_remaining h]
  have := lt_windowEnd wall.toNat window
  omega

lemma nanos_left (p : Position) : p.left.nanos = p.remaining.toNat * 1000000 := rfl

/-- Time is left of every window, even if its end has to be wrapped: the end is ahead by no more
than the length, so wrapping cannot bring it back to the moment. -/
lemma remaining_ne_zero (wall : UInt64) (window : Duration) :
    (position wall window).remaining ≠ 0 := by
  intro hzero
  have hend : (wall / lengthMillis window + 1) * lengthMillis window = wall :=
    UInt64.sub_eq_iff_eq_add.1 hzero |>.trans (UInt64.zero_add _)
  have hwrapped : (wall.toNat / windowMillis window + 1) * windowMillis window % UInt64.size =
      wall.toNat := by
    have hword := congrArg UInt64.toNat hend
    rw [UInt64.toNat_mul, UInt64.toNat_add, UInt64.toNat_div, toNat_lengthMillis] at hword
    rwa [Nat.mod_mul_mod] at hword
  have hlt := lt_windowEnd wall.toNat window
  have hle : (wall.toNat / windowMillis window + 1) * windowMillis window ≤
      wall.toNat + windowMillis window := by
    rw [Nat.add_mul, Nat.one_mul]
    exact Nat.add_le_add_right (Nat.div_mul_le_self _ _) _
  have hlength := windowMillis_lt window
  have hwall := wall.toNat_lt_size
  generalize (wall.toNat / windowMillis window + 1) * windowMillis window = windowEnd at *
  rw [show UInt64.size = 18446744073709551616 from rfl] at *
  omega

lemma left_pos (wall : UInt64) (window : Duration) : 0 < (position wall window).left.nanos := by
  have hne := remaining_ne_zero wall window
  have hpos := Nat.pos_of_ne_zero fun hzero => hne (UInt64.toNat_inj.1 hzero)
  exact Nat.mul_pos hpos (by decide)

/-- The least number of milliseconds that does not fit 64 bits with a sign. -/
def signedLimit : Nat := 9223372036854775808

/-- Below the limit of numbers with a sign every window ends within 64 bits: a window longer than
the limit is the first one, and a shorter one ends less than its length later. -/
lemma inReach_of_lt (h : wall.toNat < signedLimit) : InReach wall window := by
  have hlength := windowMillis_lt window
  have hsize : UInt64.size = 2 * signedLimit := rfl
  rw [InReach]
  by_cases hlong : wall.toNat < windowMillis window
  · rw [Nat.div_eq_of_lt hlong]
    omega
  · have := Nat.div_mul_le_self wall.toNat (windowMillis window)
    rw [Nat.add_mul, Nat.one_mul]
    omega

end Admission.Window
