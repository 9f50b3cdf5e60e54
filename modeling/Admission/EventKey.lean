/-
# Keys of budgets

Limiters that share a store keep each budget under a key of its own: the keyspace of the
limiter followed by the event.
-/
namespace Admission

/-- The key of one budget in a shared store. -/
structure EventKey where
  /-- What all keys of one limiter start with. -/
  keyspace : String
  /-- The event within the limiter; empty for the limiter's unkeyed budget. -/
  event : String
deriving DecidableEq, Repr

namespace EventKey

/-- The key as the store sees it. -/
def render (k : EventKey) : String :=
  if k.event = "" then k.keyspace else k.keyspace ++ ":" ++ k.event

/-- The keyspace of a service's default group. -/
def defaultKeyspace (service : String) : String :=
  service ++ ":rate:default"

/-- The keyspace of a named group of a service. -/
def groupKeyspace (service group : String) : String :=
  service ++ ":rate:g:" ++ group

end EventKey

end Admission
