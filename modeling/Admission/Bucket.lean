/-
# Token buckets

A bucket starts full and is refilled at a constant rate up to its capacity.  A reservation
takes a whole token if there is one and otherwise tells when there will be.  All amounts are
binary64 numbers, so how often a bucket is refilled can show in the last digits.
-/
import Admission.Reservation

namespace Admission

/-- The state of a token bucket. -/
structure Bucket where
  /-- The tokens it holds. -/
  tokens : Binary64
  /-- When it was last refilled; nothing for a bucket that has not been used.  An unused bucket
  is older than every instant it can be used at. -/
  refilledAt : Option Instant
deriving DecidableEq, Repr

namespace Bucket

/-- What the buckets of one limiter have in common. -/
structure Plan where
  /-- The tokens a full bucket holds. -/
  capacity : Binary64
  /-- The tokens added each second. -/
  rate : Binary64
  /-- The time in which an empty bucket fills up. -/
  interval : Duration
deriving DecidableEq, Repr

/-- The shortest interval; shorter ones are taken as this one. -/
def minInterval : Duration := .ofMillis 1

/-- The plan of buckets that hold `quota` tokens and fill up in `interval`. -/
def Plan.make (quota : UInt64) (interval : Duration) : Plan :=
  let interval := interval.longer minInterval
  let capacity := Binary64.ofNat quota.toNat
  ⟨capacity, capacity / interval.asSeconds, interval⟩

/-- A bucket that has not been used. -/
def full (p : Plan) : Bucket := ⟨p.capacity, none⟩

/-- Adds the tokens that have come in since the last refill.  An instant that is not later than
that one adds nothing and is forgotten. -/
def refill (b : Bucket) (p : Plan) (now : Instant) : Bucket :=
  match b.refilledAt with
  | none => { b with refilledAt := some now }
  | some last =>
    if now.isAfter last then
      ⟨min (b.tokens + (now.since last).asSeconds * p.rate) p.capacity, some now⟩
    else b

/-- The largest number of tokens that is reported. -/
def maxReported : Nat := 9223372036854775807

/-- Asks for a token.  There is no reservation if the delay does not fit a duration; the bucket
is refilled all the same. -/
def reserve (b : Bucket) (p : Plan) (now : Instant) : Bucket × Option Reservation :=
  let b := b.refill p now
  if Binary64.one ≤ b.tokens then
    let left := b.tokens - Binary64.one
    ({ b with tokens := left }, some (.grant (min left.floor maxReported)))
  else if Binary64.zero < p.rate then
    (b, (Duration.ofSeconds? ((Binary64.one - b.tokens) / p.rate)).map .reject)
  else (b, some (.reject p.interval))

/-- Whether a bucket, as it stands, holds all it can. -/
def isFull (b : Bucket) (p : Plan) : Bool :=
  decide (p.capacity ≤ b.tokens)

end Bucket

end Admission
