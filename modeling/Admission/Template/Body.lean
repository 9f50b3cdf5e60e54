/-
# Template bodies

A body is the sequence of what a template does: copy a text, print a value, or run one of two
bodies.  Each constructor carries the rest of the sequence, so a body is a single tree and
`Body.append` puts one sequence after another.
-/
import Admission.Template.Pipeline

namespace Admission.Template

/-- The two blocks: both choose a branch by the truth of a value, and one of them also makes
that value the current one in the first branch. -/
inductive Block where
  /-- Keeps the current value. -/
  | test
  /-- Moves the current value. -/
  | focus
deriving DecidableEq, Repr

/-- The keyword that opens a block. -/
def Block.keyword : Block → String
  | .test => "if"
  | .focus => "with"

/-- The kind of the current value in the first branch of a block, given the kind around the
block and the kind of the block's subject. -/
def Block.innerKind : Block → Kind → Kind → Kind
  | .test, outer, _ => outer
  | .focus, _, subject => subject

/-- What a template does, in order. -/
inductive Body where
  /-- Nothing more. -/
  | done
  /-- Copies a text. -/
  | text (cs : String) (rest : Body)
  /-- Prints a value. -/
  | print (value : Pipeline) (rest : Body)
  /-- Runs the first branch if the subject is true, else the second one. -/
  | branch (block : Block) (subject : Pipeline) (first second : Body) (rest : Body)
deriving DecidableEq, Repr

namespace Body

/-- One body after another. -/
def append : Body → Body → Body
  | .done, after => after
  | .text cs rest, after => .text cs (rest.append after)
  | .print value rest, after => .print value (rest.append after)
  | .branch block subject first second rest, after =>
    .branch block subject first second (rest.append after)

instance : Append Body := ⟨append⟩

@[simp] theorem done_append (b : Body) : .done ++ b = b := rfl

@[simp] theorem text_append (cs : String) (a b : Body) : .text cs a ++ b = .text cs (a ++ b) := rfl

@[simp] theorem print_append (value : Pipeline) (a b : Body) :
    .print value a ++ b = .print value (a ++ b) := rfl

@[simp] theorem branch_append (block : Block) (subject : Pipeline) (first second a b : Body) :
    .branch block subject first second a ++ b = .branch block subject first second (a ++ b) := rfl

@[simp] theorem append_done (a : Body) : a ++ .done = a := by
  induction a <;> simp_all

theorem append_assoc (a b c : Body) : a ++ b ++ c = a ++ (b ++ c) := by
  induction a <;> simp_all

/-- The text of a body that only copies. -/
def constant? : Body → Option String
  | .done => some ""
  | .text cs rest => rest.constant?.map (cs ++ ·)
  | .print _ _ => none
  | .branch _ _ _ _ _ => none

end Body

end Admission.Template
