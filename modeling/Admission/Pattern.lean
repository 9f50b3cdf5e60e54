/-
# API patterns

A pattern denotes a set of requests: an optional method, and a path whose segments are words
or wildcards.  An open pattern also takes every longer path.  This file holds patterns and the
requests they match; `Admission.Pattern.Reading` reads their text.
-/
import Admission.Text.Case
import Admission.Text.Cut

namespace Admission

namespace Pattern

/-- A segment of a pattern. -/
inductive Segment where
  /-- Takes exactly this word. -/
  | word (text : String)
  /-- Takes every word but the empty one. -/
  | wildcard
deriving DecidableEq, Repr

/-- Whether a segment takes the given part of a path. -/
def Segment.takes : Segment → List Char → Bool
  | .word text, part => String.ofList part == text
  | .wildcard, part => !part.isEmpty

/-- A fault of a pattern. -/
inductive Error where
  /-- The path does not start with a slash. -/
  | missingLeadingSlash (pattern : String)
  /-- What stands before the path is not a word of letters. -/
  | invalidMethod (pattern : String)
  /-- A segment before the last one is empty. -/
  | emptySegment (pattern : String)
  /-- A segment uses braces or a star in a way that is no wildcard. -/
  | badWildcard (pattern segment : String)
  /-- A wildcard for the rest of the path stands before the last segment. -/
  | restNotLast (pattern : String)
deriving DecidableEq, Repr

/-- The wording of a fault. -/
def Error.message : Error → String
  | .missingLeadingSlash pattern => "\"" ++ pattern ++ "\": path must start with '/'"
  | .invalidMethod pattern => "\"" ++ pattern ++ "\": invalid method"
  | .emptySegment pattern => "\"" ++ pattern ++ "\": empty path segment"
  | .badWildcard pattern segment =>
    "\"" ++ pattern ++ "\": bad wildcard \"" ++ segment ++ "\""
  | .restNotLast pattern => "\"" ++ pattern ++ "\": rest wildcard must be the last segment"

end Pattern

/-- A pattern. -/
structure Pattern where
  /-- The pattern as it was written, without outer blanks. -/
  source : String
  /-- The method it asks for, in upper case. -/
  method : Option String
  /-- Its segments. -/
  segments : List Pattern.Segment
  /-- It also takes paths that go on after its segments. -/
  isOpen : Bool
deriving DecidableEq, Repr

namespace Pattern

/-- The parts of what follows the first slash of a path. -/
def pathParts (rest : List Char) : List (List Char) :=
  if rest.isEmpty then [] else Text.splitOn '/' rest

/-- Segments that take the parts of a path one by one, to the end of both unless the pattern is
open. -/
def takesAll (isOpen : Bool) : List Segment → List (List Char) → Bool
  | [], [] => true
  | [], _ :: _ => isOpen
  | _ :: _, [] => false
  | segment :: segments, part :: parts => segment.takes part && takesAll isOpen segments parts

/-- Whether the pattern takes a request with this method. -/
def takesMethod (p : Pattern) (method : String) : Bool :=
  p.method.all (Text.sameIgnoringCase · method)

/-- Whether the pattern takes a request with this path. -/
def takesPath (p : Pattern) (path : String) : Bool :=
  match path.toList with
  | '/' :: rest => takesAll p.isOpen p.segments (pathParts rest)
  | _ => false

/-- Whether a request with this method and path matches the pattern. -/
def matches? (p : Pattern) (method path : String) : Bool :=
  p.takesMethod method && p.takesPath path

end Pattern

end Admission
