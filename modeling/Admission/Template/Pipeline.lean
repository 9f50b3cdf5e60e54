/-
# Pipelines

A pipeline names the value that an action works on: the current value, one of its fields, or
a text written in quotes.  Reading a pipeline follows its field names through the schema, so
the kind of its value is known before any request is seen.
-/
import Admission.Text.Blank
import Admission.Text.Cut
import Admission.Template.Error

namespace Admission.Template

open Text

/-- An expression for a value. -/
inductive Pipeline where
  /-- The current value, written as a single dot. -/
  | dot
  /-- A field of a field of … the current value. -/
  | path (fields : List String)
  /-- A text written in quotes. -/
  | literal (text : String)
deriving DecidableEq, Repr

/-- The character that a backslash and this character stand for. -/
def unescape : Char → Option Char
  | '"' => some '"'
  | '\\' => some '\\'
  | 'n' => some '\n'
  | 't' => some '\t'
  | _ => none

/-- The text that stands between two quotes.  There is none if a quote inside is not escaped
or an escape is unknown. -/
def unquote : List Char → Option (List Char)
  | [] => some []
  | [c] => if c = '\\' ∨ c = '"' then none else some [c]
  | c :: d :: cs =>
    if c = '\\' then
      match unescape d, unquote cs with
      | some e, some text => some (e :: text)
      | _, _ => none
    else if c = '"' then none
    else (unquote (d :: cs)).map (c :: ·)

/-- What stands between the quotes of a text in quotes. -/
def insideQuotes? : List Char → Option (List Char)
  | '"' :: rest => beforeEnd? ['"'] rest
  | _ => none

/-- The characters of field names: ASCII letters and digits, the underscore and the dash. -/
def isFieldChar (c : Char) : Bool :=
  c.isAlphanum || c == '_' || c == '-'

/-- A field name has at least one character. -/
def isFieldName (name : List Char) : Bool :=
  !name.isEmpty && name.all isFieldChar

/-- Follows field names from a value of the given kind.  The faults are found from left to
right; `whole` is the pipeline that a bad name is reported with. -/
def readPath (whole : String) : Kind → List (List Char) → Except Error (List String × Kind)
  | kind, [] => .ok ([], kind)
  | kind, name :: names =>
    if isFieldName name then
      let field := String.ofList name
      match kind.field field with
      | none => .error (.unknownField field kind)
      | some inner =>
        (readPath whole inner names).map fun (fields, last) => (field :: fields, last)
    else .error (.badPipeline whole)

/-- Reads a pipeline where the current value is of kind `dot`, with the kind of its value. -/
def Pipeline.read (dot : Kind) (source : List Char) : Except Error (Pipeline × Kind) :=
  let text := trim source
  let whole := String.ofList text
  if text = ['.'] then .ok (.dot, dot)
  else
    match insideQuotes? text with
    | some inside =>
      match unquote inside with
      | some cs => .ok (.literal (String.ofList cs), .text)
      | none => .error (.badPipeline whole)
    | none =>
      match text with
      | '.' :: names =>
        (readPath whole dot (splitOn '.' names)).map fun (fields, kind) => (.path fields, kind)
      | _ => .error (.badPipeline whole)

end Admission.Template
