/-
# Buckets of events

A limiter inside one process keeps a bucket for each event.  Buckets are made when their event
is first seen.  Once there are too many of them, those that have filled up again are dropped:
a bucket that is made anew is full as well.
-/
import Admission.Bucket
import Std.Data.HashMap

namespace Admission.Bucket

/-- The buckets of one limiter. -/
structure Table where
  /-- What the buckets have in common. -/
  plan : Plan
  /-- The least number of buckets that is kept without pruning. -/
  threshold : Nat
  /-- The number of buckets above which the next prune is due. -/
  nextPrune : Nat
  /-- The bucket of each event. -/
  buckets : Std.HashMap String Bucket

namespace Table

/-- The usual least number of buckets kept without pruning. -/
def defaultThreshold : Nat := 10000

/-- No buckets yet. -/
def empty (quota : UInt64) (interval : Duration) (threshold : Nat) : Table :=
  ⟨.make quota interval, threshold, threshold, ∅⟩

/-- The number of buckets. -/
def size (t : Table) : Nat := t.buckets.size

/-- The bucket of an event. -/
def bucket (t : Table) (event : String) : Bucket :=
  t.buckets.getD event (full t.plan)

/-- The largest count that a prune can ask for. -/
def maxCount : Nat := UInt64.size - 1

/-- A bucket that has been refilled, unless that made it full. -/
def spent? (plan : Plan) (now : Instant) (b : Bucket) : Option Bucket :=
  let refilled := b.refill plan now
  if refilled.isFull plan then none else some refilled

/-- Refills all buckets and drops the full ones.  The next prune is due when the number of
buckets has doubled. -/
def prune (t : Table) (now : Instant) : Table :=
  let kept := t.buckets.filterMap fun _ b => spent? t.plan now b
  { t with buckets := kept, nextPrune := max t.threshold (min (2 * kept.size) maxCount) }

/-- Prunes if a prune is due. -/
def pruneIfDue (t : Table) (now : Instant) : Table :=
  if t.nextPrune < t.size then t.prune now else t

/-- Asks for a token of an event.  A delay that does not fit a duration leaves the pruning for
later. -/
def reserve (t : Table) (event : String) (now : Instant) : Table × Option Reservation :=
  let (b, outcome) := (t.bucket event).reserve t.plan now
  let t := { t with buckets := t.buckets.insert event b }
  (if outcome.isSome then t.pruneIfDue now else t, outcome)

end Table

end Admission.Bucket
