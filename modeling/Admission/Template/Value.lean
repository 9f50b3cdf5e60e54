/-
# Values of templates

The values that a template meets while it is executed, with their fields, their truth and
their printed form.  Every request has the same fields; only the caller may be absent.
-/
import Admission.Request
import Admission.Template.Error

namespace Admission.Template

/-- A value. -/
inductive Value where
  /-- The caller of an anonymous request. -/
  | absent
  /-- A text. -/
  | text (s : String)
  /-- A truth value. -/
  | flag (b : Bool)
  /-- The whole request. -/
  | request (r : Request)
  /-- The caller. -/
  | identity (caller : Identity)
  /-- The headers of a request. -/
  | headers (r : Request)
deriving DecidableEq, Repr

namespace Value

/-- Whether a block takes its first branch on a value. -/
def isTrue : Value → Bool
  | .absent => false
  | .text s => s != ""
  | .flag b => b
  | .request _ | .identity _ | .headers _ => true

/-- A field of a value. -/
def field : Value → String → Except Error Value
  | .absent, name => .error (.nilField name)
  | .request r, name =>
    match name with
    | "Identity" => .ok (r.identity.elim .absent .identity)
    | "Subject" => .ok (.text (r.identity.elim "" Identity.subject))
    | "Tenant" => .ok (.text ((r.identity.bind Identity.tenant).getD ""))
    | "Method" => .ok (.text r.method)
    | "Path" => .ok (.text r.path)
    | "Header" => .ok (.headers r)
    | _ => .error (.unknownField name .request)
  | .identity caller, name =>
    match name with
    | "Subject" => .ok (.text caller.subject)
    | "Tenant" => .ok (.text (caller.tenant.getD ""))
    | "Plan" => .ok (.text (caller.plan.getD ""))
    | "IsDevice" => .ok (.flag caller.isDevice)
    | "IsUser" => .ok (.flag caller.isUser)
    | _ => .error (.unknownField name .identity)
  | .headers r, name => .ok (.text ((r.header name).getD ""))
  | .text _, name => .error (.unknownField name .text)
  | .flag _, name => .error (.unknownField name .flag)

/-- The printed form of a value. -/
def print : Value → Except Error String
  | .absent => .ok ""
  | .text s => .ok s
  | .flag b => .ok (if b then "true" else "false")
  | .request _ => .error (.unprintable .request)
  | .identity _ => .error (.unprintable .identity)
  | .headers _ => .error (.unprintable .headers)

end Value

end Admission.Template
