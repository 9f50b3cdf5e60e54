/-
# Reading pieces into a body

The pieces of a template are read from left to right.  The reader keeps the body of the list
that it is in and the blocks that are open around it, the innermost first.  One piece changes
this state in one step, so reading is a fold and the fault that is reported is the leftmost.
-/
import Admission.Template.Body
import Admission.Template.Piece

namespace Admission.Template

open Text

/-- What the body of an action asks for. -/
inductive Instruction where
  /-- Nothing. -/
  | comment
  /-- Closes the innermost block. -/
  | close
  /-- Starts the second branch of the innermost block. -/
  | otherwise
  /-- Opens a block on the pipeline in `subject`. -/
  | opens (block : Block) (subject : List Char)
  /-- Prints the pipeline in `value`. -/
  | prints (value : List Char)
deriving DecidableEq, Repr

/-- What follows a keyword, in a body that is the keyword alone or with a blank after it. -/
def afterKeyword? (keyword : String) (body : List Char) : Option (List Char) :=
  match afterStart? keyword.toList body with
  | some [] => some []
  | some (c :: cs) => if isBlank c then some (trim (c :: cs)) else none
  | none => none

/-- A comment stands between a slash with a star and a star with a slash. -/
def isComment (body : List Char) : Bool :=
  (afterStart? ['/', '*'] body).isSome && (beforeEnd? ['*', '/'] body).isSome

/-- What the body of an action asks for. -/
def Instruction.ofBody (body : List Char) : Instruction :=
  if isComment body then .comment
  else if body = "end".toList then .close
  else if body = "else".toList then .otherwise
  else
    match afterKeyword? Block.test.keyword body with
    | some subject => .opens .test subject
    | none =>
      match afterKeyword? Block.focus.keyword body with
      | some subject => .opens .focus subject
      | none => .prints body

/-- A block whose end has not been read. -/
structure OpenBlock where
  /-- Which block it is. -/
  block : Block
  /-- The value it asks about. -/
  subject : Pipeline
  /-- What precedes the block in its list. -/
  before : Body
  /-- The kind of the current value around the block. -/
  outer : Kind
  /-- The first branch, if the second one is being read. -/
  first : Option Body
deriving DecidableEq, Repr

/-- The block as a body, when the branch being read is `branch`. -/
def OpenBlock.closed (b : OpenBlock) (branch : Body) : Body :=
  match b.first with
  | none => .branch b.block b.subject branch .done .done
  | some first => .branch b.block b.subject first branch .done

/-- Where the reader is. -/
structure Reading where
  /-- The kind of the current value. -/
  dot : Kind
  /-- What has been read of the innermost list. -/
  body : Body
  /-- The open blocks, the innermost first. -/
  blocks : List OpenBlock
deriving DecidableEq, Repr

namespace Reading

/-- At the start the current value is the request. -/
def start : Reading := ⟨.request, .done, []⟩

/-- Adds something to the innermost list. -/
def add (r : Reading) (b : Body) : Reading :=
  { r with body := r.body ++ b }

/-- Follows an instruction. -/
def follow (r : Reading) : Instruction → Except Error Reading
  | .comment => .ok r
  | .close =>
    match r.blocks with
    | [] => .error (.unexpected "end")
    | b :: blocks => .ok ⟨b.outer, b.before ++ b.closed r.body, blocks⟩
  | .otherwise =>
    match r.blocks with
    | [] => .error (.unexpected "else")
    | b :: blocks =>
      match b.first with
      | some _ => .error (.unexpected "else")
      | none => .ok ⟨b.outer, .done, { b with first := some r.body } :: blocks⟩
  | .opens block subject =>
    (Pipeline.read r.dot subject).map fun (value, kind) =>
      ⟨block.innerKind r.dot kind, .done, ⟨block, value, r.body, r.dot, none⟩ :: r.blocks⟩
  | .prints value =>
    match Pipeline.read r.dot value with
    | .error e => .error e
    | .ok (value, kind) =>
      if kind.isPrintable then .ok (r.add (.print value .done)) else .error (.unprintable kind)

/-- Reads one piece. -/
def step (r : Reading) : Piece → Except Error Reading
  | .text cs => .ok (r.add (.text (String.ofList cs) .done))
  | .action body => r.follow (.ofBody body)

/-- The body that has been read, once no block is open. -/
def finish (r : Reading) : Except Error Body :=
  match r.blocks with
  | [] => .ok r.body
  | b :: _ => .error (.missingEnd b.block.keyword)

end Reading

/-- Reads the pieces of a template. -/
def Body.ofPieces (pieces : List Piece) : Except Error Body :=
  match pieces.foldlM Reading.step .start with
  | .error e => .error e
  | .ok r => r.finish

end Admission.Template
