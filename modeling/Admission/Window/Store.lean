/-
# Stores of window counters

A store counts how often each key was asked for in each window.  A counter is made with the
first increment and expires at the end of its window.  Every so often an increment also sweeps
out all counters that have expired.
-/
import Admission.Window
import Std.Data.HashMap

namespace Admission.Window

/-- A counter.  It counts one by one, so at an increment each nanosecond 64 bits would last for
longer than five hundred years, and no run that comes about ever leaves them.  The same goes for the
increments of a whole store. -/
structure Counter where
  /-- The increments so far. -/
  count : Nat
  /-- When it expires. -/
  expiresAt : Instant
deriving DecidableEq, Repr

/-- What an increment answers. -/
structure Count where
  /-- The increments of the window so far, with this one.  Like those of a `Counter` they do not
  leave 64 bits. -/
  count : Nat
  /-- The time until the counter expires. -/
  ttl : Duration
  /-- The number of the window. -/
  epoch : UInt64
deriving DecidableEq, Repr

/-- The times at which an increment happens. -/
structure Clock where
  /-- The wall clock, in milliseconds since its start. -/
  wall : UInt64
  /-- The monotonic clock. -/
  now : Instant
deriving DecidableEq, Repr

/-- A store in memory. -/
structure Store where
  /-- The counters, under the key and the number of the window. -/
  counters : Std.HashMap String Counter
  /-- The increments of all counters so far. -/
  increments : Nat

namespace Store

/-- A store without counters. -/
def empty : Store := ⟨∅, 0⟩

/-- The number of counters. -/
def size (s : Store) : Nat := s.counters.size

/-- A store is swept with every increment whose number is a multiple of this. -/
def sweepEvery : Nat := 1024

/-- The key of a counter: the key that was asked for and the number of the window. -/
def counterKey (key : String) (epoch : UInt64) : String :=
  key ++ ":" ++ toString epoch.toNat

/-- Removes the counters that have expired. -/
def sweep (s : Store) (now : Instant) : Store :=
  { s with counters := s.counters.filter fun _ c => c.expiresAt.isAfter now }

/-- A counter after one more increment.  A counter that has expired, or that is not there, starts
anew and lives for the time that is left. -/
def bump (old : Option Counter) (left : Duration) (now : Instant) : Counter :=
  match old with
  | some c =>
    if c.expiresAt.isAfter now then { c with count := c.count + 1 } else ⟨1, now.after left⟩
  | none => ⟨1, now.after left⟩

/-- Increments the counter of a key in the window that the clock is in. -/
def increment (s : Store) (key : String) (window : Duration) (clock : Clock) : Store × Count :=
  let place := position clock.wall window
  let name := counterKey key place.epoch
  let counter := bump s.counters[name]? place.left clock.now
  let next : Store := ⟨s.counters.insert name counter, s.increments + 1⟩
  (if next.increments % sweepEvery = 0 then next.sweep clock.now else next,
    ⟨counter.count, counter.expiresAt.since clock.now, place.epoch⟩)

end Store

end Admission.Window
