/-
# Executing a template body

The text that a body produces, given the current value.  The fault of an execution is that of
the first part that fails.
-/
import Admission.Template.Body
import Admission.Template.Value

namespace Admission.Template

/-- The value of a pipeline where the current value is `dot`. -/
def Pipeline.eval (dot : Value) : Pipeline → Except Error Value
  | .dot => .ok dot
  | .literal text => .ok (.text text)
  | .path fields => fields.foldlM Value.field dot

/-- The current value in the first branch of a block, given the one around the block and the
block's subject. -/
def Block.innerValue : Block → Value → Value → Value
  | .test, outer, _ => outer
  | .focus, _, subject => subject

/-- The text of one result after another, with the first fault. -/
def joined (first second : Except Error String) : Except Error String :=
  match first with
  | .error e => .error e
  | .ok s => second.map (s ++ ·)

/-- The text that a body produces where the current value is `dot`. -/
def Body.render (dot : Value) : Body → Except Error String
  | .done => .ok ""
  | .text cs rest => joined (.ok cs) (rest.render dot)
  | .print value rest =>
    match value.eval dot with
    | .error e => .error e
    | .ok v => joined v.print (rest.render dot)
  | .branch block subject first second rest =>
    match subject.eval dot with
    | .error e => .error e
    | .ok v =>
      joined (if v.isTrue then first.render (block.innerValue dot v) else second.render dot)
        (rest.render dot)

end Admission.Template
