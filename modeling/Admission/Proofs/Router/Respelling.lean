/-
# Requests that differ in spelling

A client is free in how it spells a request: the case of the method and of header names, the query,
the order of headers and how often one is repeated.  None of that may get it another budget.  A
router looks at a request with patterns and templates only, and these cannot tell requests apart
that are alike.  So it decides about two spellings of a request as about one
(`respellings_are_interchangeable`).
-/
import Admission.Proofs.Router.Mapping
import Admission.Proofs.Template.Alike

namespace Admission.Router

variable {L σ : Type} {request other : Request}

lemma rule?_of_alike (h : request.Alike other) (r : Router L) :
    r.rule? request = r.rule? other := by
  rw [rule?, rule?, h.method, h.path]

lemma select_of_alike (h : request.Alike other) (r : Router L) :
    r.select request = r.select other := by
  rw [select, select, rule?_of_alike h]
  cases r.rule? other with
  | none => rfl
  | some rule => simp only [Template.execute_of_alike h]

lemma Group.event_of_alike (h : request.Alike other) (g : Group L) :
    g.event request = g.event other := by
  rw [event, event, Template.execute_of_alike h]

lemma decide_of_alike (h : request.Alike other)
    (reserve : L → String → σ → σ × Except Failure Reservation) (r : Router L) (s : σ) :
    r.decide reserve request s = r.decide reserve other s := by
  rw [decide, decide, select_of_alike h]
  simp only [Group.event_of_alike h]

/-- **Spellings are interchangeable.**  Two spellings of one request have methods that differ in
case at most, paths that differ after the first question mark at most, the same last value for every
header name up to case, and the same last caller.  Every template gives the same result for both,
every pattern matches both or neither, and every router sends both to the same group and event with
the same fallback, or meets the same fault; it asks the same limiter for the same and counts the
same. -/
theorem respellings_are_interchangeable {w w' : Request.Spelling} (h : w.SameAs w') :
    (∀ t : Template, t.execute w.request = t.execute w'.request) ∧
    (∀ p : Pattern, p.matches? w.request.method w.request.path =
      p.matches? w'.request.method w'.request.path) ∧
    ∀ {L σ : Type} (r : Router L) (reserve : L → String → σ → σ × Except Failure Reservation)
      (s : σ), r.rule? w.request = r.rule? w'.request ∧
        r.select w.request = r.select w'.request ∧
        r.placement w.request = r.placement w'.request ∧
        r.decide reserve w.request s = r.decide reserve w'.request s := by
  have halike := h.alike
  refine ⟨Template.execute_of_alike halike, fun p => ?_, fun r reserve s =>
    ⟨rule?_of_alike halike r, select_of_alike halike r, ?_, decide_of_alike halike reserve r s⟩⟩
  · rw [halike.method, halike.path]
  · rw [placement, placement, select_of_alike halike, Group.event_of_alike halike]

/-- The two requests are not the same, because they keep what is hidden; but that does not show. -/
theorem respelled_headers_and_callers :
    let w : Request.Spelling := ⟨"get", "/x?page=2", [.header "X-Group" "old", .caller (.user "u1"),
      .header "x-group" "gx", .header "Accept" "a"]⟩
    let w' : Request.Spelling := ⟨"Get", "/x?", [.header "accept" "a", .caller (.device "d9"),
      .header "X-GROUP" "gx", .caller (.user "u1")]⟩
    let t : Template := ⟨"{{.Header.X-group}}", .print (.path ["Header", "X-group"]) .done⟩
    w.request ≠ w'.request ∧ t.execute w.request = .ok "gx" ∧ t.execute w'.request = .ok "gx" := by
  intro w w' t
  have hgroup : Text.lower "X-Group" = "x-group" ∧ Text.lower "x-group" = "x-group" ∧
      Text.lower "X-GROUP" = "x-group" := by decide
  have haccept : Text.lower "Accept" = "accept" ∧ Text.lower "accept" = "accept" := by decide
  have hsame : w.SameAs w' := by
    refine ⟨by decide, by decide, fun name => ?_, by decide⟩
    simp only [w, w', List.filterMap_cons, List.filterMap_nil, Request.Part.value?,
      Text.sameIgnoringCase, hgroup, haccept]
    by_cases hname : Text.lower name = "accept"
    · rw [hname]
      rfl
    · have hother : ("accept" == Text.lower name) = false := beq_false_of_ne (Ne.symm hname)
      rw [hother]
      cases "x-group" == Text.lower name <;> rfl
  have hexecute : t.execute w.request = .ok "gx" := by decide
  exact ⟨by decide, hexecute, (respellings_are_interchangeable hsame).1 t ▸ hexecute⟩

end Admission.Router
