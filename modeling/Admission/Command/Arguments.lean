/-
# Arguments of the command

The command has options, a subcommand, and options of the subcommand.  Options that have to do
with the command as a whole may also follow the subcommand, and then count instead of those
before it.

Arguments are read from left to right.  A value that is an argument of its own waits until the
next option is read, or until the arguments of the subcommand end, and is judged only then; so a
request for help may come before a wrong value is noticed.
-/
import Admission.Command.Option

namespace Admission.Command

open Text

/-! ## What arguments ask for -/

/-- What to check. -/
structure Check where
  /-- The path of the request. -/
  path : String
  /-- Its method. -/
  method : String
  /-- The caller, unless anonymous. -/
  subject : Option String
  /-- The tenant of the caller. -/
  tenant : Option String
  /-- The caller is a device. -/
  device : Bool
  /-- The headers. -/
  headers : List (String × String)
  /-- How many decisions to make. -/
  times : Nat
  /-- Where the store server is, if there is one. -/
  redis : Option String
  /-- What the keys in the store start with. -/
  service : String
deriving DecidableEq, Repr

/-- The subcommands. -/
inductive Action where
  /-- Checks the configuration, and prints it if asked to. -/
  | validate (dump : Bool)
  /-- Makes decisions about a request. -/
  | check (what : Check)
deriving DecidableEq, Repr

/-- What the arguments ask for. -/
structure Invocation where
  /-- The settings file. -/
  config : String
  /-- Logs are JSON. -/
  jsonLogs : Bool
  /-- The subcommand. -/
  action : Action
deriving DecidableEq, Repr

/-- What there is help about. -/
inductive Topic where
  /-- The command as a whole. -/
  | command
  /-- The subcommand that validates. -/
  | validate
  /-- The subcommand that checks. -/
  | check
  /-- The subcommand for help. -/
  | help
deriving DecidableEq, Repr

/-- Why arguments ask for nothing that could be done. -/
inductive Refusal where
  /-- They are wrong. -/
  | usage
  /-- They ask for help. -/
  | help (topic : Topic)
  /-- They ask for the version. -/
  | version
deriving DecidableEq, Repr

/-- The topic with a name. -/
def Topic.named? : String → Option Topic
  | "validate" => some .validate
  | "check" => some .check
  | "help" => some .help
  | _ => none

/-! ## Forms -/

/-- The forms of an argument. -/
inductive Form where
  /-- A long option, with the value attached to it. -/
  | long (name : String) (attached : Option String)
  /-- A short option, with what is attached to it. -/
  | short (name : Char) (attached : Option String)
  /-- The end of all options. -/
  | endOfOptions
  /-- Anything else. -/
  | plain
deriving DecidableEq, Repr

/-- The form of an argument.  A single dash is not an option. -/
def Form.of (arg : String) : Form :=
  match arg.toList with
  | ['-', '-'] => .endOfOptions
  | '-' :: '-' :: name =>
    match cutAtFirst (· == '=') name with
    | some (name, value) => .long (String.ofList name) (some (String.ofList value))
    | none => .long (String.ofList name) none
  | '-' :: c :: rest =>
    match rest with
    | [] => .short c none
    | '=' :: value => .short c (some (String.ofList value))
    | value => .short c (some (String.ofList value))
  | _ => .plain

/-- The option that a form names, with the value attached to it.  To the short name of an option
without a value nothing can be attached, and what follows it does not matter. -/
def Form.option? (known : List Opt) : Form → Option (Opt × Option String)
  | .long name attached => (known.find? (·.name == name)).map (·, attached)
  | .short name attached =>
    (known.find? (·.short == some name)).map fun o =>
      (o, if o.takes = .nothing then none else attached)
  | _ => none

/-! ## Options -/

/-- The options that were given with their values, the latest first. -/
abbrev Given : Type := List (String × String)

/-- All values that were given for an option, the first one first. -/
def Given.all (given : Given) (name : String) : List String :=
  (given.filter (·.1 == name)).reverse.map (·.2)

/-- Notes an option.  Its value must be acceptable, and it must not have been given before unless
it may be given again. -/
def note (o : Opt) (value : String) (given : Given) : Except Refusal Given :=
  if !o.takes.accepts value || (!o.many && (given.lookup o.name).isSome) then .error .usage
  else .ok ((o.name, value) :: given)

/-- How far the options have been read. -/
structure Progress where
  /-- The options that were judged. -/
  given : Given
  /-- The option whose value waits to be judged. -/
  waiting : Option (Opt × String)

/-- The options with the waiting one among them. -/
def Progress.settle (p : Progress) : Except Refusal Given :=
  match p.waiting with
  | none => .ok p.given
  | some (o, value) => note o value p.given

/-- Reads options up to the first argument that is none.  Gives what was read and what is
left. -/
def readOptions (known : List Opt) (topic : Topic) (p : Progress) :
    List String → Except Refusal (Progress × List String)
  | [] => .ok (p, [])
  | arg :: args =>
    match Form.of arg with
    | .plain => .ok (p, arg :: args)
    | .endOfOptions => if args.isEmpty then .ok (p, []) else .error .usage
    | form =>
      match form.option? known with
      | none => .error .usage
      | some (o, attached) =>
        match p.settle with
        | .error r => .error r
        | .ok given =>
          match o.takes, attached, args with
          | .nothing, some _, _ => .error .usage
          | .nothing, none, args =>
            if o.name = "help" then .error (.help topic)
            else if o.name = "version" then .error .version
            else
              match note o "" given with
              | .error r => .error r
              | .ok given => readOptions known topic ⟨given, none⟩ args
          | _, some value, args =>
            match note o value given with
            | .error r => .error r
            | .ok given => readOptions known topic ⟨given, none⟩ args
          | _, none, value :: args =>
            if Form.of value = .plain then readOptions known topic ⟨given, some (o, value)⟩ args
            else .error .usage
          | _, none, [] => .error .usage

/-- Reads the options of a subcommand, behind which nothing may follow. -/
def readAll (known : List Opt) (topic : Topic) (args : List String) : Except Refusal Given :=
  match readOptions known topic ⟨[], none⟩ args with
  | .error r => .error r
  | .ok (p, rest) => if rest.isEmpty then p.settle else .error .usage

/-! ## Subcommands -/

/-- What the options of the subcommand that checks ask for. -/
def Check.ofGiven? (given : Given) : Option Check := do
  let path ← given.lookup "path"
  let headers ← (Given.all given "header").mapM header?
  let times ← times? ((given.lookup "repeat").getD "1")
  let subject := given.lookup "subject"
  let tenant := given.lookup "tenant"
  let device := (given.lookup "device").isSome
  if subject.isNone && (tenant.isSome || device) then none
  else
    return ⟨path, (given.lookup "method").getD "GET", subject, tenant, device, headers, times,
      given.lookup "redis", (given.lookup "prefix").getD "ratemux"⟩

/-- What there is help about when help is asked for by the subcommand for it. -/
def helpTopic? : List String → Option Topic
  | [] => some .command
  | [name] => Topic.named? name
  | _ => none

/-- What a subcommand with its arguments asks for. -/
def Action.read (name : String) (args : List String) : Except Refusal (Given × Action) :=
  match Topic.named? name with
  | some .validate =>
    (readAll validateOptions .validate args).map fun given =>
      (given, .validate (given.lookup "dump").isSome)
  | some .check =>
    match readAll checkOptions .check args with
    | .error r => .error r
    | .ok given =>
      match Check.ofGiven? given with
      | some what => .ok (given, .check what)
      | none => .error .usage
  | some _ =>
    match helpTopic? args with
    | some topic => .error (.help topic)
    | none => .error .usage
  | none => .error .usage

/-- What the arguments ask for. -/
def Invocation.read (args : List String) : Except Refusal Invocation := do
  let (p, rest) ← readOptions rootOptions .command ⟨[], none⟩ args
  match rest with
  | [] => .error .usage
  | name :: args =>
    let (after, action) ← Action.read name args
    let before ← p.settle
    let given := after ++ before
    return ⟨(given.lookup "config").getD "ratemux.yaml", (given.lookup "json-logs").isSome,
      action⟩

end Admission.Command
