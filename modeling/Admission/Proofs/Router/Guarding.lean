/-
# Expressions that anonymous requests cannot fail

If an expression reads the caller's fields under a guard only, it applies to every request
(`Template.execute_of_guarded`).  So a group with such an event expression tells the event of every
request it serves, and a rule with such a group expression leaves no request to the default group
for an expression that does not apply (`guards_suffice`).
-/
import Admission.Proofs.Router.Counting
import Admission.Proofs.Template.Guards

namespace Admission.Router

variable {L σ : Type} {r : Router L} {request : Request} {rule : Rule} {s : σ}
  {reserve : L → String → σ → σ × Except Failure Reservation}

/-- If the event expression of the group applies, an error of a decision is the limiter's own. -/
lemma decide_of_execute {text : String} {e : Error}
    (h : (r.select request).1.eventExpression.execute request = .ok text)
    (he : (r.decide reserve request s).2.2 = .error (.error e)) :
    ∃ event, (reserve (r.select request).1.limiter event s).2 = .error (.error e) := by
  have hevent : (r.select request).1.event request =
      .ok (if Text.trimmed text = "" then anonymousEvent else Text.trimmed text) := by
    rw [Group.event, h]
  simp only [decide, hevent, map_eq_error_iff] at he
  exact ⟨_, he⟩

/-- If the group expression of the deciding rule applies, the request is not left to the default
group for want of that. -/
lemma select_of_execute {text : String} (hrule : r.Decides rule request)
    (h : rule.groupExpression.execute request = .ok text) (reason : String) :
    (r.select request).2 ≠ some (.evaluationFailed reason) := by
  intro hreason
  have hresolves := resolves_select r request
  rw [hreason] at hresolves
  generalize (r.select request).1 = g at hresolves
  cases hresolves with
  | failed hother herror =>
    -- only one rule decides, and its expression does apply
    obtain rfl := Option.some.inj
      ((rule?_eq_some_iff.2 hrule).symm.trans (rule?_eq_some_iff.2 hother))
    exact absurd (h.symm.trans herror) (by simp)

/-- **Guards suffice.**  A template that reads fields of the caller only in first branches of blocks
that ask for the caller, at any depth, gives a text for every request.  As the event expression of
the group that a request goes to it makes no decision fail: what errors there are come from the
limiter.  As the group expression of the rule that decides it leaves no request to the default group
for not applying, and none is counted for that. -/
theorem guards_suffice {source : String} {t : Template} (h : Template.compile source = .ok t)
    (hguarded : t.body.Guarded False .request) :
    (∀ request, ∃ text, t.execute request = .ok text) ∧
      ∀ {L σ : Type} (r : Router L) (reserve : L → String → σ → σ × Except Failure Reservation)
        (request : Request) (s : σ),
        let decided := r.decide reserve request s
        ((r.select request).1.eventExpression = t →
          (∀ l event s e, (reserve l event s).2 = .error (.error e) → e.isEvaluation = false) →
          ∀ e, decided.2.2 = .error (.error e) → e.isEvaluation = false) ∧
        ∀ rule, r.Decides rule request → rule.groupExpression = t →
          decided.1.stats.evaluationFailed = r.stats.evaluationFailed ∧
            ∀ d reason, decided.2.2 = .ok d → d.fallback ≠ some (.evaluationFailed reason) := by
  have hexecute := Template.execute_of_guarded h hguarded
  refine ⟨hexecute, fun r reserve request s => ?_⟩
  obtain ⟨text, htext⟩ := hexecute request
  refine ⟨?_, ?_⟩
  · rintro rfl hlimiters e he
    obtain ⟨event, hown⟩ := decide_of_execute htext he
    exact hlimiters _ event s e hown
  · rintro rule hrule rfl
    have hselect := select_of_execute hrule htext
    refine ⟨?_, fun d reason hd => ?_⟩
    · rw [decide_fst]
      cases hfallback : (r.select request).2 with
      | none => rfl
      | some fallback =>
        cases fallback with
        | unknownGroup name => rfl
        | evaluationFailed reason => exact absurd hfallback (hselect reason)
    · rw [fallback_of_decide hd]
      exact hselect reason

/-- The plan of the caller is read in the second branch of a block inside the guard, and an
anonymous request comes to a limiter that is out of reach. -/
theorem guards_suffice_inside_second_branch :
    let source := "\x7b\x7bif .Identity\x7d\x7d\x7b\x7bwith .Header.Tier\x7d\x7d\x7b\x7b.\x7d\x7d" ++
      "\x7b\x7belse\x7d\x7d\x7b\x7b.Identity.Plan\x7d\x7d\x7b\x7bend\x7d\x7d\x7b\x7bend\x7d\x7d"
    let t : Template := ⟨source, .branch .test (.path ["Identity"])
      (.branch .focus (.path ["Header", "Tier"]) (.print .dot .done)
        (.print (.path ["Identity", "Plan"]) .done) .done) .done .done⟩
    let rule : Rule := ⟨⟨"/x", none, [.word "x"], false⟩, t⟩
    let r : Router Unit := ⟨⟨"default", (), t⟩, [], [rule], ⟨0, 3⟩⟩
    let reserve := fun (_ : Unit) event asked => (event :: asked, .error (.error (.store "down")))
    let decided := r.decide reserve (Request.make "GET" "/x") []
    Template.compile source = .ok t ∧ t.body.Guarded False .request ∧
      r.Decides rule (Request.make "GET" "/x") ∧ decided.1.stats.evaluationFailed = 3 ∧
      decided.2.2 = .error (.error (.store "down")) ∧
      (Error.store "down").isEvaluation = false := by
  intro source t rule r reserve decided
  have hcompile : Template.compile source = .ok t := by decide +kernel
  have hguarded : t.body.Guarded False .request := by
    simp [t, Template.Body.Guarded, Template.Pipeline.ReadsCaller,
      Template.Pipeline.AsksForCaller, Template.Block.innerKind]
  have hrule : r.Decides rule (Request.make "GET" "/x") :=
    rule?_eq_some_iff.1 (by decide +kernel)
  have hanswer : decided.2.2 = .error (.error (.store "down")) := by decide +kernel
  obtain ⟨hevent, hgroup⟩ :=
    (guards_suffice hcompile hguarded).2 r reserve (Request.make "GET" "/x") []
  refine ⟨hcompile, hguarded, hrule, (hgroup rule hrule rfl).1, hanswer, ?_⟩
  refine hevent (by decide +kernel) ?_ _ hanswer
  rintro _ event asked e he
  obtain rfl := Failure.error.inj (Except.error.inj he)
  rfl

end Admission.Router
