/-
# Fixed-window limiters

A limiter that admits as many requests for an event in each window as its quota says.  Limiters
with the same keyspace and store share their budgets.
-/
import Admission.EventKey
import Admission.Reservation
import Admission.Window.Shared

namespace Admission.Window

/-- A fixed-window limiter. -/
structure Limiter where
  /-- What its keys in the store start with. -/
  keyspace : String
  /-- The length of the windows. -/
  interval : Duration
  /-- The requests admitted in each window. -/
  quota : UInt64
  /-- How long a round trip to the store may take. -/
  timeout : Option Duration
deriving DecidableEq, Repr

namespace Limiter

/-- The increment that a reservation for an event asks for.  The empty event stands for the
limiter's unkeyed budget. -/
def ask (l : Limiter) (event : String) : Ask :=
  ⟨EventKey.render ⟨l.keyspace, event⟩, l.interval⟩

/-- The number that the low 64 bits of a number are, read with a sign. -/
def signed64 (n : Nat) : Int :=
  Int.bmod n UInt64.size

/-- The reservation that a count gives. -/
def judge (l : Limiter) (c : Count) : Reservation :=
  if c.count ≤ l.quota.toNat then .grant (signed64 (l.quota.toNat - c.count)) else .reject c.ttl

/-- The outcome that an attempt gives. -/
def conclude (l : Limiter) : Attempt → Except Failure Reservation
  | .counted c => .ok (l.judge c)
  | .failed e => .error (.error e)
  | .stalled =>
    match l.timeout with
    | some timeout => .error (.error (.deadlineExceeded timeout))
    | none => .error .unanswered

/-- Asks a store of any kind for a token of an event. -/
def reserveFrom {σ : Type} (store : σ → Ask → σ × Attempt) (l : Limiter) (event : String) (s : σ) :
    σ × Except Failure Reservation :=
  let (s, attempt) := store s (l.ask event)
  (s, l.conclude attempt)

/-- Asks the shared store for a token of an event. -/
def reserve : Limiter → String → Shared → Shared × Except Failure Reservation :=
  reserveFrom Shared.increment

end Limiter

end Admission.Window
