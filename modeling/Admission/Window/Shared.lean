/-
# Shared stores

Services share a store over a connection that may fail.  A round trip brings back a count, an
error, or nothing at all.  The connection keeps a record of what it was asked.
-/
import Admission.Error
import Admission.Window.Store

namespace Admission.Window

/-- How round trips to the store end. -/
inductive Link where
  /-- They reach the store. -/
  | up
  /-- They fail with an error. -/
  | failing (e : Error)
  /-- They never end. -/
  | stalled
deriving DecidableEq, Repr

/-- How one round trip ended. -/
inductive Attempt where
  /-- The store answered. -/
  | counted (count : Count)
  /-- There was an error. -/
  | failed (e : Error)
  /-- It has not ended. -/
  | stalled
deriving DecidableEq, Repr

/-- An increment that was asked for. -/
structure Ask where
  /-- The key to be counted. -/
  key : String
  /-- The length of the windows. -/
  window : Duration
deriving DecidableEq, Repr

/-- A store behind a connection. -/
structure Shared where
  /-- The store. -/
  store : Store
  /-- How round trips end now. -/
  link : Link
  /-- The time now. -/
  clock : Clock
  /-- What the connection was asked, the latest first. -/
  asked : List Ask

/-- Asks the store for an increment. -/
def Shared.increment (s : Shared) (ask : Ask) : Shared × Attempt :=
  let s := { s with asked := ask :: s.asked }
  match s.link with
  | .up =>
    let (store, count) := s.store.increment ask.key ask.window s.clock
    ({ s with store }, .counted count)
  | .failing e => (s, .failed e)
  | .stalled => (s, .stalled)

end Admission.Window
