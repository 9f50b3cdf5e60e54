/-
# Setting up routers

Routers are built from settings, with limiters that share a store or with limiters inside the
process.  Rate limiting that is switched off is an error of its own.
-/
import Admission.Config.Loading
import Admission.Limiter
import Admission.Router

namespace Admission.Setup

/-- The configuration in settings that have rate limiting switched on. -/
def configuration (s : Settings) : Except Error Config :=
  match Config.load s with
  | .error e => .error e
  | .ok none => .error (.disabled Config.enableKey)
  | .ok (some c) => .ok c

/-- The limiter in a shared store for a group of a service. -/
def windowLimiter (service : String) (timeout : Option Duration) (group : Option String)
    (p : Config.Params) : Window.Limiter :=
  let keyspace := match group with
    | none => EventKey.defaultKeyspace service
    | some name => EventKey.groupKeyspace service name
  ⟨keyspace, p.interval, p.quota, timeout⟩

/-- The limiter inside the process for a group. -/
def localLimiter (group : Option String) (p : Config.Params) : LocalLimiter :=
  ⟨group, p.quota, p.interval⟩

/-- A router whose groups are limited in a shared store, under keys of the given service. -/
def shared (service : String) (s : Settings) : Except Error (Router Window.Limiter) := do
  let c ← configuration s
  Router.ofConfig (windowLimiter service c.storeTimeout) c

/-- A router whose groups are limited inside the process. -/
def inProcess (s : Settings) : Except Error (Router LocalLimiter) := do
  let c ← configuration s
  Router.ofConfig localLimiter c

end Admission.Setup
