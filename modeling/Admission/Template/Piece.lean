/-
# The pieces of a template

A template source is plain text with actions between double braces.  Cutting it up takes two
steps.  `cutText` finds the actions from left to right and leaves everything else as it is.
`Cuts.pieces` then honours the trim markers: an action that begins with a dash and a blank
takes away the blanks before it, one that ends with a blank and a dash those after it.
-/
import Admission.Text.Blank
import Admission.Template.Error

namespace Admission.Template

open Text

/-- A source cut at its actions. -/
structure Cuts where
  /-- The text before the first action. -/
  head : List Char
  /-- The inside of each action, with the text that follows the action. -/
  actions : List (List Char × List Char)
deriving DecidableEq, Repr

mutual

/-- Cuts up a source from a place outside of all actions, `offset` bytes after its start. -/
def cutText (offset : Nat) : List Char → Except Error Cuts
  | [] => .ok ⟨[], []⟩
  | [c] => .ok ⟨[c], []⟩
  | c :: d :: cs =>
    if c = '{' ∧ d = '{' then
      (cutAction offset (offset + 2) cs).map fun (inside, after) =>
        ⟨[], (inside, after.head) :: after.actions⟩
    else
      (cutText (offset + c.utf8Size) (d :: cs)).map fun cuts =>
        { cuts with head := c :: cuts.head }

/-- Cuts up a source from a place inside the action that was opened `opened` bytes after the
start: the rest of the action's inside, and what follows the action. -/
def cutAction (opened offset : Nat) : List Char → Except Error (List Char × Cuts)
  | [] => .error (.unclosedAction opened)
  | [_] => .error (.unclosedAction opened)
  | c :: d :: cs =>
    if c = '}' ∧ d = '}' then
      (cutText (offset + 2) cs).map fun after => ([], after)
    else
      (cutAction opened (offset + c.utf8Size) (d :: cs)).map fun (inside, after) =>
        (c :: inside, after)

end

/-- What an action says about the blanks around it, and its body. -/
structure Action where
  /-- Blanks before the action are dropped. -/
  trimsBefore : Bool
  /-- Blanks after the action are dropped. -/
  trimsAfter : Bool
  /-- The body, without markers and outer blanks. -/
  body : List Char
deriving DecidableEq, Repr

/-- What follows the dash, in a text that starts with a dash and a blank. -/
def afterMarker? : List Char → Option (List Char)
  | c :: d :: cs => if c = '-' ∧ isBlank d = true then some (d :: cs) else none
  | _ => none

/-- Takes the trim markers off the inside of an action. -/
def Action.ofInside (inside : List Char) : Action :=
  let unmarked := (afterMarker? inside).getD inside
  let body := ((afterMarker? unmarked.reverse).map List.reverse).getD unmarked
  { trimsBefore := (afterMarker? inside).isSome
    trimsAfter := (afterMarker? unmarked.reverse).isSome
    body := trim body }

/-- A part of a template: text to be copied, or the body of an action. -/
inductive Piece where
  /-- Text that is copied. -/
  | text (cs : List Char)
  /-- The body of an action. -/
  | action (body : List Char)
deriving DecidableEq, Repr

/-- A text as a piece; an empty text leaves none. -/
def textPieces (cs : List Char) : List Piece :=
  if cs.isEmpty then [] else [.text cs]

/-- The pieces from a text on.  `trimming` tells that the action before the text drops the
blanks after it. -/
def piecesFrom (trimming : Bool) (text : List Char) : List (List Char × List Char) → List Piece
  | [] => textPieces (if trimming then trimStart text else text)
  | (inside, after) :: more =>
    let action := Action.ofInside inside
    let kept := if trimming then trimStart text else text
    textPieces (if action.trimsBefore then trimEnd kept else kept) ++
      .action action.body :: piecesFrom action.trimsAfter after more

/-- The pieces of a source that has been cut up. -/
def Cuts.pieces (cuts : Cuts) : List Piece :=
  piecesFrom false cuts.head cuts.actions

/-- The pieces of a source, or the fault that one of its actions has no end. -/
def Piece.ofSource (source : String) : Except Error (List Piece) :=
  (cutText 0 source.toList).map Cuts.pieces

end Admission.Template
