/-
# The command

The command checks a configuration, or makes decisions about one request with it.
-/
import Admission.Command.Address
import Admission.Command.Arguments
import Admission.Command.Output
import Admission.Config.Json
import Admission.Json.Yaml
import Admission.Setup
import Admission.Window.Server

namespace Admission.Command

/-- What a run of the command leads to. -/
structure Report where
  /-- The decisions that were printed. -/
  decisions : List Router.Decision
  /-- The configuration that was printed. -/
  dump : Option Config
  /-- The message of the error that ended the run, with its causes. -/
  failure : Option (String × List String)

namespace Report

/-- A run that prints nothing. -/
def silent : Report := ⟨[], none, none⟩

/-- A run that ends with an error. -/
def failed (e : Error) : Report :=
  ⟨[], none, some (e.message, e.cause?.toList)⟩

/-- A run that ends with an error in some context. -/
def failedIn (context : String) (e : Error) : Report :=
  ⟨[], none, some (context, e.message :: e.cause?.toList)⟩

/-- What is printed on standard output. -/
def output (r : Report) : String :=
  String.join (r.decisions.map fun d => (decisionJson d).render ++ "\n") ++
    r.dump.elim "" (·.toJson.toYaml)

/-- What is printed about the error. -/
def errorText? (r : Report) : Option String :=
  r.failure.map fun (message, causes) => errorReport message causes

end Report

/-- The context of errors in a configuration. -/
def configContext : String := "invalid rate limit configuration"

/-- Checks a configuration. -/
def validate (dump : Bool) (s : Settings) : Report :=
  match Config.load s with
  | .error e => .failed e
  | .ok none => .silent
  | .ok (some c) =>
    match Router.ofConfig Setup.localLimiter c with
    | .error e => .failedIn configContext e
    | .ok _ => if dump then ⟨[], some c, none⟩ else .silent

/-- The request that is to be decided about. -/
def Check.request (what : Check) : Request :=
  let request := what.headers.foldl (fun r (name, value) => r.withHeader name value)
    (Request.make what.method what.path)
  match what.subject with
  | none => request
  | some subject =>
    let caller := if what.device then Identity.device subject else Identity.user subject
    request.withIdentity { caller with tenant := what.tenant }

/-! ## Stores -/

/-- The store servers that are within reach of a machine. -/
structure Network (σ : Type) where
  /-- Connects to the server at an address.  The text is that of a refusal. -/
  dial : Address → String → Except String σ
  /-- Runs the script of increments on a server. -/
  run : σ → String → UInt64 → σ × Window.Server.Reply

/-- Connects to the server at an address, if it is one. -/
def Network.connect {σ : Type} (network : Network σ) (address : String) : Except Error σ :=
  match Address.read address with
  | .error fault => .error (.redis fault.message)
  | .ok place => (network.dial place address).mapError .redis

/-- A machine without store servers: the system refuses every connection. -/
def Network.offline : Network Empty where
  dial
    | .host, _ => .error "Connection refused (os error 111)"
    | .socket, _ => .error "No such file or directory (os error 2)"
  run server := nomatch server

/-! ## Decisions -/

section

variable {σ : Type}

/-- Makes decisions about a request, up to the first that fails. -/
def decideTimes (store : σ → Window.Ask → σ × Window.Attempt) (request : Request) :
    Nat → Router Window.Limiter → σ → List Router.Decision × Option Failure
  | 0, _, _ => ([], none)
  | times + 1, r, s =>
    let (r, s, outcome) := r.decide (Window.Limiter.reserveFrom store) request s
    match outcome with
    | .error failure => ([], some failure)
    | .ok decision =>
      let (decisions, failure) := decideTimes store request times r s
      (decision :: decisions, failure)

/-- Makes decisions about a request, with a store of any kind.  One that never answers leaves the
command waiting, which is reported as a failure. -/
def checkWith (store : σ → Window.Ask → σ × Window.Attempt) (start : σ) (what : Check)
    (s : Settings) : Report :=
  match Setup.shared what.service s with
  | .error e => if e.isDisabled then .silent else .failedIn configContext e
  | .ok r =>
    match decideTimes store what.request what.times r start with
    | (decisions, none) => ⟨decisions, none, none⟩
    | (decisions, some (.error e)) => { Report.failed e with decisions }
    | (decisions, some _) => ⟨decisions, none, some ("the store does not answer", [])⟩

/-- Makes decisions about a request, with the store on a server or with one in memory. -/
def check (network : Network σ) (what : Check) (clock : Window.Clock) (s : Settings) : Report :=
  match what.redis with
  | some address =>
    match network.connect address with
    | .error e => .failed e
    | .ok server => checkWith (Window.Server.increment network.run) server what s
  | none => checkWith Window.Shared.increment ⟨.empty, .up, clock, []⟩ what s

/-- Does what was asked for with the given settings. -/
def perform (network : Network σ) (action : Action) (clock : Window.Clock) (s : Settings) :
    Report :=
  match action with
  | .validate dump => validate dump s
  | .check what => check network what clock s

/-- Runs the command.  `file` is what reading the settings file led to, if there is one.  There
is no report if there are no settings, because of a place in a list that is out of reach. -/
def runWithin? (network : Network σ) (i : Invocation) (clock : Window.Clock)
    (file : Option (Except Settings.Fault Settings)) (environment : List (String × String)) :
    Option Report :=
  let act := fun file => (Config.layered? file environment).map (perform network i.action clock)
  match file with
  | none => act none
  | some (.ok s) => act (some s)
  | some (.error fault) => some (.failedIn ("loading " ++ i.config) (.source fault))

end

/-- Runs the command on a machine without store servers. -/
def run? (i : Invocation) (clock : Window.Clock)
    (file : Option (Except Settings.Fault Settings)) (environment : List (String × String)) :
    Option Report :=
  runWithin? .offline i clock file environment

end Admission.Command
