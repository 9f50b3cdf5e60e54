/-
# Requests

What a rate limit decision may depend on: the method, the path, the headers and the identity
of the caller.  A request is brought into one spelling when it is built, so that all later
reading is by plain equality.
-/
import Admission.Text.Case
import Admission.Text.Cut

namespace Admission

/-- The authenticated caller behind a request. -/
structure Identity where
  /-- The user or device that the caller is. -/
  subject : String
  /-- The tenant that the subject belongs to. -/
  tenant : Option String
  /-- The plan of the tenant. -/
  plan : Option String
  /-- The caller is a device. -/
  isDevice : Bool
  /-- The caller is a user. -/
  isUser : Bool
deriving DecidableEq, Repr

namespace Identity

/-- The identity of a user. -/
def user (subject : String) : Identity := ⟨subject, none, none, false, true⟩

/-- The identity of a device. -/
def device (subject : String) : Identity := ⟨subject, none, none, true, false⟩

end Identity

/-- A request as decisions see it. -/
structure Request where
  /-- The method, in upper case. -/
  method : String
  /-- The path, without a query. -/
  path : String
  /-- The headers under their names in lower case, the latest first. -/
  headers : List (String × String)
  /-- The caller, unless anonymous. -/
  identity : Option Identity
deriving DecidableEq, Repr

namespace Request

/-- The part of a path before its query. -/
def withoutQuery (path : String) : String :=
  match Text.cutAtFirst (· == '?') path.toList with
  | some (before, _) => String.ofList before
  | none => path

/-- An anonymous request without headers. -/
def make (method path : String) : Request :=
  ⟨Text.upper method, withoutQuery path, [], none⟩

/-- A request with one header more; it hides earlier headers of that name. -/
def withHeader (r : Request) (name value : String) : Request :=
  { r with headers := (Text.lower name, value) :: r.headers }

/-- A request made by the given caller. -/
def withIdentity (r : Request) (caller : Identity) : Request :=
  { r with identity := some caller }

/-- The value of a header, whatever the case of its name. -/
def header (r : Request) (name : String) : Option String :=
  r.headers.lookup (Text.lower name)

@[simp] theorem identity_withIdentity (r : Request) (caller : Identity) :
    (r.withIdentity caller).identity = some caller := rfl

@[simp] theorem identity_withHeader (r : Request) (name value : String) :
    (r.withHeader name value).identity = r.identity := rfl

theorem header_withHeader (r : Request) (name value other : String) :
    (r.withHeader name value).header other =
      if Text.lower other = Text.lower name then some value else r.header other := by
  simp only [header, withHeader, List.lookup_cons]
  by_cases h : Text.lower other = Text.lower name
  · simp [h]
  · simp [h, beq_false_of_ne h]

end Request

end Admission
