/-
# Stores on a server

A store server keeps the counters of all the processes that are connected to it.  An increment is
a script that the server runs.  The script gets the key and the length of the windows in
milliseconds, and it brings back three numbers.  The server and the way to it are a function
here, which may do what it likes with the script.
-/
import Admission.Window.Shared

namespace Admission.Window.Server

/-- What running the script leads to. -/
inductive Reply where
  /-- The count, the milliseconds until the counter expires, and the number of the window. -/
  | numbers (count : UInt64) (ttl : Int64) (epoch : UInt64)
  /-- A refusal, by the server or on the way to it. -/
  | refused (text : String)
  /-- Nothing so far. -/
  | pending
deriving DecidableEq, Repr

/-- How the round trip for a key ended.  A counter that never expires is an error. -/
def Reply.attempt (key : String) : Reply → Attempt
  | .numbers count ttl epoch =>
    if ttl < 0 then .failed (.store ("window counter for " ++ key ++ " has no expiry"))
    else .counted ⟨count.toNat, .ofMillis ttl.toInt.toNat, epoch⟩
  | .refused text => .failed (.redis text)
  | .pending => .stalled

/-- Asks the server for an increment.  `run` runs the script. -/
def increment {σ : Type} (run : σ → String → UInt64 → σ × Reply) (s : σ) (ask : Ask) :
    σ × Attempt :=
  let (s, reply) := run s ask.key (lengthMillis ask.window)
  (s, reply.attempt ask.key)

end Admission.Window.Server
