/-
# Spellings of a request

A service builds a request from a method, a path, and whatever headers and callers it adds, in any
order and as often as it likes.  What is in the request then is no more than this: the method up to
case, the path up to its query, the last value given for each header name up to case, and the last
caller.  Spellings that agree on these give requests that agree on all that can be read of a request
(`Spelling.SameAs.alike`).
-/
import Admission.Request
import Admission.Proofs.Text.Letters
import Mathlib.Data.List.Induction
import Mathlib.Data.List.TakeWhile

namespace Admission.Request

/-- Something that is added to a request. -/
inductive Part where
  /-- A header. -/
  | header (name value : String)
  /-- The caller. -/
  | caller (who : Identity)
deriving DecidableEq, Repr

/-- A request with one part more. -/
def Part.addTo (r : Request) : Part → Request
  | .header name value => r.withHeader name value
  | .caller who => r.withIdentity who

/-- The value of a part that gives one for the header of this name, whatever the case. -/
def Part.value? (name : String) : Part → Option String
  | .header given value => if Text.sameIgnoringCase given name then some value else none
  | .caller _ => none

/-- The caller that a part names. -/
def Part.caller? : Part → Option Identity
  | .header _ _ => none
  | .caller who => some who

/-- What a request is built from. -/
structure Spelling where
  /-- The method, in any case. -/
  method : String
  /-- The path, with or without a query. -/
  path : String
  /-- What is added, in order. -/
  parts : List Part
deriving DecidableEq, Repr

namespace Spelling

/-- The request that is built. -/
def request (w : Spelling) : Request :=
  w.parts.foldl Part.addTo (.make w.method w.path)

/-- Two spellings of one request. -/
structure SameAs (w w' : Spelling) : Prop where
  method : Text.sameIgnoringCase w.method w'.method = true
  path : w.path.toList.takeWhile (· != '?') = w'.path.toList.takeWhile (· != '?')
  header : ∀ name, (w.parts.filterMap (Part.value? name)).getLast? =
    (w'.parts.filterMap (Part.value? name)).getLast?
  caller : (w.parts.filterMap Part.caller?).getLast? =
    (w'.parts.filterMap Part.caller?).getLast?

end Spelling

/-- Two requests agree on all that can be read of them. -/
structure Alike (r s : Request) : Prop where
  method : r.method = s.method
  path : r.path = s.path
  header : ∀ name, r.header name = s.header name
  identity : r.identity = s.identity

/-! ## What is in a request -/

lemma toList_withoutQuery (path : String) :
    (withoutQuery path).toList = path.toList.takeWhile (· != '?') := by
  rw [withoutQuery]
  split
  · rename_i before after hcut
    obtain ⟨c, hpath, hc, hbefore⟩ := Text.cutAtFirst_eq_some_iff.1 hcut
    rw [String.toList_ofList, hpath, List.takeWhile_append_of_pos fun d hd => by
      simpa using hbefore d hd, List.takeWhile_cons_of_neg (by simpa using hc), List.append_nil]
  · rename_i hcut
    have hnone := Text.cutAtFirst_eq_none_iff.1 hcut
    refine (List.takeWhile_eq_self_iff.2 fun c hc => ?_).symm
    simpa using hnone c hc

namespace Spelling

/-- What is added last is added to all that is before it. -/
lemma request_snoc (method path : String) (parts : List Part) (part : Part) :
    (⟨method, path, parts ++ [part]⟩ : Spelling).request =
      part.addTo (⟨method, path, parts⟩ : Spelling).request :=
  List.foldl_append

variable (w : Spelling)

lemma method_request : w.request.method = Text.upper w.method := by
  obtain ⟨method, path, parts⟩ := w
  induction parts using List.reverseRecOn with
  | nil => rfl
  | append_singleton parts part ih =>
    rw [request_snoc]
    cases part <;> exact ih

lemma path_request : w.request.path = withoutQuery w.path := by
  obtain ⟨method, path, parts⟩ := w
  induction parts using List.reverseRecOn with
  | nil => rfl
  | append_singleton parts part ih =>
    rw [request_snoc]
    cases part <;> exact ih

/-- The last value given for a name counts. -/
lemma header_request (name : String) :
    w.request.header name = (w.parts.filterMap (Part.value? name)).getLast? := by
  obtain ⟨method, path, parts⟩ := w
  induction parts using List.reverseRecOn with
  | nil => rfl
  | append_singleton parts part ih =>
    rw [request_snoc, List.filterMap_append]
    cases part with
    | caller who =>
      rw [List.filterMap_cons_none rfl, List.filterMap_nil, List.append_nil]
      exact ih
    | header given value =>
      rw [Part.addTo, header_withHeader]
      by_cases hsame : Text.sameIgnoringCase given name = true
      · have hvalue : (Part.header given value).value? name = some value := if_pos hsame
        rw [if_pos (Text.sameIgnoringCase_iff.1 hsame).symm, List.filterMap_cons_some hvalue,
          List.filterMap_nil, List.getLast?_concat]
      · have hnone : (Part.header given value).value? name = none := if_neg hsame
        rw [if_neg fun heq => hsame (Text.sameIgnoringCase_iff.2 heq.symm),
          List.filterMap_cons_none hnone, List.filterMap_nil, List.append_nil]
        exact ih

/-- The last caller counts. -/
lemma identity_request : w.request.identity = (w.parts.filterMap Part.caller?).getLast? := by
  obtain ⟨method, path, parts⟩ := w
  induction parts using List.reverseRecOn with
  | nil => rfl
  | append_singleton parts part ih =>
    rw [request_snoc, List.filterMap_append]
    cases part with
    | caller who =>
      have hcaller : (Part.caller who).caller? = some who := rfl
      rw [List.filterMap_cons_some hcaller, List.filterMap_nil, List.getLast?_concat]
      rfl
    | header given value =>
      rw [List.filterMap_cons_none rfl, List.filterMap_nil, List.append_nil]
      exact ih

/-- Spellings of one request give requests that agree on all that can be read of them. -/
lemma SameAs.alike {w w' : Spelling} (h : w.SameAs w') : w.request.Alike w'.request where
  method := by
    rw [method_request, method_request, Text.upper_eq_of_sameIgnoringCase h.method]
  path := by
    rw [path_request, path_request, ← String.toList_inj, toList_withoutQuery,
      toList_withoutQuery, h.path]
  header name := by rw [header_request, header_request, h.header]
  identity := by rw [identity_request, identity_request, h.caller]

end Spelling

end Admission.Request
