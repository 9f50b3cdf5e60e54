/-
# Windows of the wall clock

Time on the wall clock is divided into windows of equal length, counted from the start of the
clock.  This file says in which window a moment lies and how much of it is left.  All numbers
are milliseconds in 64 bits.
-/
import Admission.Duration

namespace Admission.Window

/-- The length of a window in milliseconds: its whole milliseconds in 64 bits, but at least
one. -/
def lengthMillis (window : Duration) : UInt64 :=
  let n := UInt64.ofNat window.millis
  if n = 0 then 1 else n

/-- A place in the sequence of windows. -/
structure Position where
  /-- The number of the window. -/
  epoch : UInt64
  /-- The milliseconds to its end. -/
  remaining : UInt64
deriving DecidableEq, Repr

/-- The place of a moment, in milliseconds since the start of the clock. -/
def position (wall : UInt64) (window : Duration) : Position :=
  let length := lengthMillis window
  let epoch := wall / length
  ⟨epoch, (epoch + 1) * length - wall⟩

/-- The time to the end of the window. -/
def Position.left (p : Position) : Duration :=
  .ofMillis p.remaining.toNat

end Admission.Window
