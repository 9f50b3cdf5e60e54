/-
# Traffic at a router

Requests come to a router one after the other, while the connection to the shared store goes up
and down and the store is swept now and then.  The router changes in what it has counted only, so
each request has the budget that it would have had at the start, and the store goes through the
increments of those requests that reach it (`store_after`).
-/
import Admission.Proofs.Router.Deciding
import Admission.Proofs.Window.Calls
import Mathlib.Data.List.Induction

namespace Admission.Router

open Window (Call Clock Link Shared Store)

/-! ## Visits -/

/-- Something that happens at a router over a shared store. -/
inductive Visit where
  /-- A request comes, with the connection in this state and at this time. -/
  | arrive (request : Request) (link : Link) (clock : Clock)
  /-- The store is swept at this time. -/
  | sweep (clock : Clock)
deriving DecidableEq

namespace Visit

/-- The time of a visit. -/
def clock : Visit → Clock
  | .arrive _ _ clock => clock
  | .sweep clock => clock

/-- The times of visits never go back. -/
def InOrder (visits : List Visit) : Prop :=
  visits.Pairwise fun a b => a.clock.now.nanos ≤ b.clock.now.nanos

instance (visits : List Visit) : Decidable (InOrder visits) :=
  inferInstanceAs (Decidable (List.Pairwise _ _))

/-- The budget that a visit takes a token from. -/
def budget? (r : Router Window.Limiter) : Visit → Option Budget
  | .arrive request _ _ => r.budget? request
  | .sweep _ => none

/-- The step that the store makes at a visit. -/
def step? (r : Router Window.Limiter) : Visit → Option Store.Step
  | .arrive request link clock =>
    (r.budget? request).bind fun x =>
      (Call.reserve (r.select request).1.limiter x.event link clock).step?
  | .sweep clock => some (.sweep clock.now)

lemma now_of_step? {r : Router Window.Limiter} {visit : Visit} {step : Store.Step}
    (h : visit.step? r = some step) : step.now = visit.clock.now := by
  cases visit with
  | arrive request link clock =>
    obtain ⟨x, -, hstep⟩ := Option.bind_eq_some_iff.1 h
    exact Call.now_of_step? hstep
  | sweep clock =>
    cases h
    rfl

lemma timely_visits {r : Router Window.Limiter} {visits : List Visit} (h : InOrder visits) :
    Window.Timely (visits.filterMap (step? r)) :=
  Window.timely_filterMap (fun _ _ hstep => now_of_step? hstep) h

end Visit

/-! ## Runs -/

/-- The router and the store after a visit. -/
def serve (state : Router Window.Limiter × Shared) : Visit → Router Window.Limiter × Shared
  | .arrive request link clock =>
    let (r, s, _) := state.1.decide Window.Limiter.reserve request (state.2.onward link clock)
    (r, s)
  | .sweep clock => (state.1, state.2.next (.sweep clock))

/-- The router and the store after a run that starts without counters. -/
def after (r : Router Window.Limiter) (visits : List Visit) : Router Window.Limiter × Shared :=
  visits.foldl serve (r, .fresh)

/-- What is decided about a request after a run. -/
def outcome (r : Router Window.Limiter) (visits : List Visit) (request : Request) (link : Link)
    (clock : Clock) : Except Failure Decision :=
  ((r.after visits).1.decide Window.Limiter.reserve request
    ((r.after visits).2.onward link clock)).2.2

/-! ## What a run leaves -/

variable {r : Router Window.Limiter}

lemma after_snoc (visits : List Visit) (visit : Visit) :
    r.after (visits ++ [visit]) = serve (r.after visits) visit :=
  List.foldl_append

/-- The groups and the rules stay as they were. -/
lemma after_fst (visits : List Visit) : ∃ stats, (r.after visits).1 = { r with stats } := by
  induction visits using List.reverseRecOn with
  | nil => exact ⟨r.stats, rfl⟩
  | append_singleton visits visit ih =>
    obtain ⟨stats, hstats⟩ := ih
    cases visit with
    | arrive request link clock => exact ⟨_, by rw [after_snoc, serve, decide_fst, hstats]⟩
    | sweep clock => exact ⟨stats, by rw [after_snoc, serve, hstats]⟩

lemma store_serve (s : Shared) (visit : Visit) :
    (serve (r, s) visit).2.store = (visit.step? r).elim s.store s.store.next := by
  cases visit with
  | arrive request link clock =>
    show (r.decide Window.Limiter.reserve request (s.onward link clock)).2.1.store = _
    cases hbudget : r.budget? request with
    | none =>
      rw [decide_of_no_budget hbudget, Visit.step?, hbudget]
      rfl
    | some x =>
      rw [decide_of_budget hbudget, Visit.step?, hbudget, Option.bind_some]
      exact Window.store_next s (.reserve (r.select request).1.limiter x.event link clock)
  | sweep clock => rfl

/-- The store goes through the steps that the visits are. -/
lemma store_after (visits : List Visit) :
    (r.after visits).2.store = Store.empty.run (visits.filterMap (Visit.step? r)) := by
  induction visits using List.reverseRecOn with
  | nil => rfl
  | append_singleton visits visit ih =>
    obtain ⟨stats, hstats⟩ := after_fst (r := r) visits
    have hsame : visit.step? { r with stats } = visit.step? r := by cases visit <;> rfl
    have hserve := store_serve (r := (r.after visits).1) (r.after visits).2 visit
    rw [hstats, hsame, ← hstats] at hserve
    rw [after_snoc, hserve, ih, List.filterMap_append]
    cases hvisit : visit.step? r with
    | none => rw [List.filterMap_cons_none hvisit, List.filterMap_nil, List.append_nil, Option.elim]
    | some step =>
      rw [List.filterMap_cons_some hvisit, List.filterMap_nil, Window.Store.run_snoc, Option.elim]

/-- What is decided about a request that has a budget: the verdict of its group's limiter on the
state that the run has left. -/
lemma outcome_of_budget {request : Request} {x : Budget} (h : r.budget? request = some x)
    (visits : List Visit) (link : Link) (clock : Clock) :
    r.outcome visits request link clock =
      ((r.select request).1.limiter.reserve x.event
        ((r.after visits).2.onward link clock)).2.map fun reservation =>
          ⟨x.group, x.event, reservation, (r.select request).2⟩ := by
  obtain ⟨stats, hstats⟩ := after_fst (r := r) visits
  have hbudget : { r with stats }.budget? request = some x := h
  rw [outcome, hstats, decide_of_budget hbudget]
  rfl

lemma budget?_of_outcome {visits : List Visit} {request : Request} {link : Link} {clock : Clock}
    {d : Decision} (h : r.outcome visits request link clock = .ok d) :
    r.budget? request = some ⟨d.group, d.event⟩ := by
  obtain ⟨stats, hstats⟩ := after_fst (r := r) visits
  rw [outcome, hstats] at h
  have hbudget : { r with stats }.budget? request = some ⟨d.group, d.event⟩ := budget?_of_decide h
  exact hbudget

end Admission.Router
