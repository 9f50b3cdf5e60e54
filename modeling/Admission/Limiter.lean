/-
# Limiters and their budgets

The two kinds of limiters a router can have: token buckets inside the process, and fixed
windows in a shared store.  Limiters describe; the tokens that have been taken are kept beside
them.
-/
import Admission.Bucket.Table
import Admission.Window.Limiter

namespace Admission

/-! ## Limiters inside the process -/

/-- A limiter inside the process: a token bucket for each event. -/
structure LocalLimiter where
  /-- The group that it limits; nothing for the default group. -/
  group : Option String
  /-- The tokens of a full bucket. -/
  quota : UInt64
  /-- The time in which a bucket fills up. -/
  interval : Duration
deriving DecidableEq, Repr

/-- The buckets of all limiters inside the process. -/
structure LocalBudgets where
  /-- The time now. -/
  now : Instant
  /-- The buckets of each group's limiter. -/
  tables : Std.HashMap (Option String) Bucket.Table

namespace LocalLimiter

/-- The outcome that a bucket gives. -/
def outcome : Option Reservation → Except Failure Reservation
  | some r => .ok r
  | none => .error .delayTooLong

/-- The buckets of a limiter that has not been used. -/
def fresh (l : LocalLimiter) : Bucket.Table :=
  .empty l.quota l.interval Bucket.Table.defaultThreshold

/-- Asks for a token of an event. -/
def reserve (l : LocalLimiter) (event : String) (b : LocalBudgets) :
    LocalBudgets × Except Failure Reservation :=
  let (table, answer) := (b.tables.getD l.group l.fresh).reserve event b.now
  ({ b with tables := b.tables.insert l.group table }, outcome answer)

end LocalLimiter

/-- No budgets in use. -/
def LocalBudgets.empty (now : Instant) : LocalBudgets := ⟨now, ∅⟩

/-! ## Limiters of both kinds -/

/-- A limiter of either kind. -/
inductive Limiter where
  /-- Inside the process. -/
  | inProcess (l : LocalLimiter)
  /-- In a shared store. -/
  | window (l : Window.Limiter)
deriving DecidableEq, Repr

/-- The budgets of limiters of both kinds. -/
structure Budgets where
  /-- The buckets inside the process. -/
  inProcess : LocalBudgets
  /-- The shared store. -/
  shared : Window.Shared

/-- Asks for a token of an event. -/
def Limiter.reserve (l : Limiter) (event : String) (b : Budgets) :
    Budgets × Except Failure Reservation :=
  match l with
  | .inProcess l =>
    let (budgets, outcome) := l.reserve event b.inProcess
    ({ b with inProcess := budgets }, outcome)
  | .window l =>
    let (shared, outcome) := l.reserve event b.shared
    ({ b with shared }, outcome)

end Admission
