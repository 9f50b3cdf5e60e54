/-
# Faults of templates

What can be wrong with a template, when it is compiled and when it is executed.
-/
import Admission.Template.Kind

namespace Admission.Template

/-- A fault of a template. -/
inductive Error where
  /-- The action that starts at this byte of the source has no end. -/
  | unclosedAction (offset : Nat)
  /-- A keyword stands where no block admits it. -/
  | unexpected (keyword : String)
  /-- The block that this keyword opens has no end. -/
  | missingEnd (keyword : String)
  /-- A text that is no pipeline. -/
  | badPipeline (text : String)
  /-- The kind has no such field. -/
  | unknownField (field : String) (kind : Kind)
  /-- Values of this kind have no printed form. -/
  | unprintable (kind : Kind)
  /-- A field of the caller was read in an anonymous request. -/
  | nilField (field : String)
deriving DecidableEq, Repr

/-- The wording of a fault. -/
def Error.message : Error → String
  | .unclosedAction offset => s!"unclosed action starting at offset {offset}"
  | .unexpected keyword => "unexpected \x7b\x7b" ++ keyword ++ "\x7d\x7d"
  | .missingEnd keyword =>
    "missing \x7b\x7bend\x7d\x7d for \x7b\x7b" ++ keyword ++ "\x7d\x7d"
  | .badPipeline text => "bad pipeline \"" ++ text ++ "\""
  | .unknownField field kind => "can't evaluate field " ++ field ++ " in type " ++ kind.name
  | .unprintable kind => "can't print value of type " ++ kind.name
  | .nilField field => "nil identity evaluating field " ++ field

end Admission.Template
