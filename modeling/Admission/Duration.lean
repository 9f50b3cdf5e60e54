/-
# Durations and instants

Spans of time and moments, in whole nanoseconds.  Moments are counted from an origin that does
not matter: only their differences do.
-/
import Admission.Binary64

namespace Admission

/-- A span of time. -/
structure Duration where
  /-- Its length in nanoseconds. -/
  nanos : Nat
deriving DecidableEq, Repr, Hashable

namespace Duration

/-- Whole seconds. -/
def ofSeconds (n : Nat) : Duration := ⟨n * 1000000000⟩

/-- Whole milliseconds. -/
def ofMillis (n : Nat) : Duration := ⟨n * 1000000⟩

/-- The whole seconds of a span. -/
def seconds (d : Duration) : Nat := d.nanos / 1000000000

/-- The nanoseconds beyond the whole seconds. -/
def subsecondNanos (d : Duration) : Nat := d.nanos % 1000000000

/-- The whole milliseconds of a span. -/
def millis (d : Duration) : Nat := d.nanos / 1000000

/-- The longer of two spans. -/
def longer (a b : Duration) : Duration := ⟨max a.nanos b.nanos⟩

/-- The seconds of a span as a number.  The whole seconds and the fraction are rounded before
they are added. -/
def asSeconds (d : Duration) : Binary64 :=
  .ofNat d.seconds + .ofNat d.subsecondNanos / .ofNat 1000000000

/-- Durations are shorter than this many seconds. -/
def secondsLimit : Nat := UInt64.size

/-- The span nearest to a number of seconds, a half going to the even nanosecond.  There is
none for numbers beyond the limit. -/
def ofSeconds? (x : Binary64) : Option Duration :=
  if x.units < secondsLimit * Binary64.scale then
    some ⟨Binary64.roundQuotient (x.units * 1000000000) Binary64.scale⟩
  else none

end Duration

/-- A moment. -/
structure Instant where
  /-- Nanoseconds since the origin. -/
  nanos : Nat
deriving DecidableEq, Repr

namespace Instant

/-- The span from an earlier moment to a later one; nothing if they are the other way round. -/
def since (later earlier : Instant) : Duration := ⟨later.nanos - earlier.nanos⟩

/-- The moment a span later. -/
def after (start : Instant) (d : Duration) : Instant := ⟨start.nanos + d.nanos⟩

/-- Whether a moment comes after another. -/
def isAfter (a b : Instant) : Bool := b.nanos < a.nanos

end Instant

end Admission
