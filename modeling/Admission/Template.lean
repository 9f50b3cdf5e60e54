/-
# Templates

A template is compiled once and executed against many requests.  Event expressions and group
expressions are templates.
-/
import Admission.Template.Execution
import Admission.Template.Reading

namespace Admission

/-- A compiled template. -/
structure Template where
  /-- The template as it was written. -/
  source : String
  /-- What it does. -/
  body : Template.Body
deriving DecidableEq, Repr

namespace Template

/-- Compiles a template.  Unfinished actions are found first, then the other faults from left
to right. -/
def compile (source : String) : Except Error Template :=
  match Piece.ofSource source with
  | .error e => .error e
  | .ok pieces => (Body.ofPieces pieces).map (⟨source, ·⟩)

/-- The output of a template that is the same for every request because it has no actions. -/
def constant (t : Template) : Option String :=
  t.body.constant?

/-- Executes a template. -/
def execute (t : Template) (r : Request) : Except Error String :=
  match t.constant with
  | some text => .ok text
  | none => t.body.render (.request r)

end Template

end Admission
