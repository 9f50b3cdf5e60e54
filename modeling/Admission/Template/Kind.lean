/-
# Kinds of values

The schema that templates are checked against: which kinds of values there are, which fields
each kind has, and which kinds can be printed.
-/
namespace Admission.Template

/-- The kind of a value that a template can reach. -/
inductive Kind where
  /-- The whole request. -/
  | request
  /-- The caller. -/
  | identity
  /-- The headers, whose fields are their names. -/
  | headers
  /-- A text. -/
  | text
  /-- A truth value. -/
  | flag
deriving DecidableEq, Repr

namespace Kind

/-- The name of a kind in messages. -/
def name : Kind → String
  | .request => "Request"
  | .identity => "Identity"
  | .headers => "Header"
  | .text => "string"
  | .flag => "bool"

/-- The kind of a field, if there is such a field.  Every name is a field of the headers. -/
def field : Kind → String → Option Kind
  | .request, name =>
    match name with
    | "Identity" => some .identity
    | "Subject" | "Tenant" | "Method" | "Path" => some .text
    | "Header" => some .headers
    | _ => none
  | .identity, name =>
    match name with
    | "Subject" | "Tenant" | "Plan" => some .text
    | "IsDevice" | "IsUser" => some .flag
    | _ => none
  | .headers, _ => some .text
  | .text, _ => none
  | .flag, _ => none

/-- Only texts and truth values have a printed form. -/
def isPrintable : Kind → Bool
  | .text | .flag => true
  | .request | .identity | .headers => false

end Kind

end Admission.Template
