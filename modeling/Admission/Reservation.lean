/-
# Reservations

The outcome of asking a budget for a token.  A reservation without delay is admitted; any
other one tells how long the next token takes.
-/
import Admission.Duration

namespace Admission

/-- The outcome of asking for a token. -/
structure Reservation where
  /-- The time until the next token; nothing if the request is admitted. -/
  delay : Duration
  /-- The tokens that are left. -/
  tokens : Nat
deriving DecidableEq, Repr

namespace Reservation

/-- The shortest delay of a rejection. -/
def minDelay : Duration := .ofMillis 1

/-- Admits a request and leaves `left` tokens; a negative number counts as none. -/
def grant (left : Int) : Reservation :=
  ⟨⟨0⟩, left.toNat⟩

/-- Rejects a request for a time that is never read as no delay. -/
def reject (delay : Duration) : Reservation :=
  ⟨delay.longer minDelay, 0⟩

/-- Whether the request is admitted. -/
def isOk (r : Reservation) : Bool :=
  r.delay.nanos == 0

/-- The delay in seconds, rounded up. -/
def retryAfter (r : Reservation) : Nat :=
  if 0 < r.delay.subsecondNanos then r.delay.seconds + 1 else r.delay.seconds

@[simp] theorem isOk_grant (left : Int) : (grant left).isOk = true := rfl

@[simp] theorem isOk_reject (delay : Duration) : (reject delay).isOk = false := by
  have : max delay.nanos minDelay.nanos ≠ 0 := by
    have : minDelay.nanos = 1000000 := rfl
    omega
  simpa [isOk, reject, Duration.longer] using this

@[simp] theorem tokens_grant (left : Int) : (grant left).tokens = left.toNat := rfl

@[simp] theorem tokens_reject (delay : Duration) : (reject delay).tokens = 0 := rfl

end Reservation

end Admission
