/-
# Deciding about requests

A decision selects a group, tells the event of the request in it, and asks the limiter of the
group for a token.  Which budget that is depends on the request and on the rules and groups of
the router (`budget?`); what the router has counted so far plays no part.  In a router that has
been built for a shared store the increment is that of the budget's key.
-/
import Admission.Proofs.Router.Budgets

namespace Admission.Router

variable {L σ : Type} {r : Router L} {request : Request} {x : Budget}

/-! ## The budget of a request -/

/-- The budget that a request takes its token from, if its event expression applies. -/
def budget? (r : Router L) (request : Request) : Option Budget :=
  match (r.select request).1.event request with
  | .error _ => none
  | .ok event => some ⟨(r.select request).1.name, event⟩

lemma budget?_eq_some_iff :
    r.budget? request = some x ↔
      (r.select request).1.name = x.group ∧ (r.select request).1.event request = .ok x.event := by
  rw [budget?]
  obtain ⟨group, event⟩ := x
  cases (r.select request).1.event request <;> simp

/-- Requests whose event would be blank have the anonymous one. -/
lemma event_ne_empty {g : Group L} {event : String} (h : g.event request = .ok event) :
    event ≠ "" := by
  rw [Group.event] at h
  split at h
  · exact absurd h (by simp)
  · obtain rfl := Except.ok.inj h
    split
    · decide
    · assumption

lemma budget?_event_ne_empty (h : r.budget? request = some x) : x.event ≠ "" :=
  event_ne_empty (budget?_eq_some_iff.1 h).2

/-- The group of a request is one of the router's. -/
lemma select_mem (r : Router L) (request : Request) :
    (r.select request).1 = r.default ∨ (r.select request).1 ∈ r.groups := by
  rw [select]
  split
  · exact .inl rfl
  · split
    · exact .inl rfl
    · simp only
      split
      · exact .inl rfl
      · split
        · rename_i hgroup
          exact .inr (List.mem_of_find?_eq_some hgroup)
        · exact .inl rfl

/-! ## What a decision does -/

variable {reserve : L → String → σ → σ × Except Failure Reservation} {s : σ}

lemma decide_fst :
    (r.decide reserve request s).1 = { r with stats := r.stats.record (r.select request).2 } := by
  rw [decide]
  simp only
  split <;> rfl

/-- The limiter of the selected group is asked for the event of the budget. -/
lemma decide_of_budget (h : r.budget? request = some x) :
    (r.decide reserve request s).2 =
      ((reserve (r.select request).1.limiter x.event s).1,
        (reserve (r.select request).1.limiter x.event s).2.map fun reservation =>
          ⟨x.group, x.event, reservation, (r.select request).2⟩) := by
  obtain ⟨hname, hevent⟩ := budget?_eq_some_iff.1 h
  simp only [decide, hevent, hname]

/-- A request without a budget leaves the budgets alone. -/
lemma decide_of_no_budget (h : r.budget? request = none) :
    (r.decide reserve request s).2.1 = s := by
  rw [budget?] at h
  cases hevent : (r.select request).1.event request with
  | error e => simp only [decide, hevent]
  | ok event => simp [hevent] at h

/-- A decision names the budget of the request. -/
lemma budget?_of_decide {d : Decision} (h : (r.decide reserve request s).2.2 = .ok d) :
    r.budget? request = some ⟨d.group, d.event⟩ := by
  cases hbudget : r.budget? request with
  | none =>
    rw [budget?] at hbudget
    cases hevent : (r.select request).1.event request with
    | error e => simp [decide, hevent] at h
    | ok event => simp [hevent] at hbudget
  | some x =>
    rw [decide_of_budget hbudget] at h
    obtain ⟨reservation, -, rfl⟩ := map_eq_ok_iff.1 h
    rfl

/-- A decision tells how its group was selected. -/
lemma fallback_of_decide {d : Decision} (h : (r.decide reserve request s).2.2 = .ok d) :
    d.fallback = (r.select request).2 := by
  rw [decide_of_budget (budget?_of_decide h)] at h
  obtain ⟨reservation, -, hd⟩ := map_eq_ok_iff.1 h
  exact (congrArg Decision.fallback hd).symm

/-! ## Routers over a shared store -/

variable {service : String} {timeout : Option Duration} {c : Config} {t : Router Window.Limiter}

/-- The groups of a router ask for the keys of their budgets. -/
lemma Built.key_ask (ht : Built (Setup.windowLimiter service timeout) c t)
    {g : Group Window.Limiter} (hg : g = t.default ∨ g ∈ t.groups) (event : String) :
    (g.limiter.ask event).key = Budget.key service ⟨g.name, event⟩ := by
  rw [Budget.key, Budget.keyspace]
  rcases hg with rfl | hg
  · rw [ht.default_name, ht.default_limiter, if_pos rfl]
    rfl
  · obtain ⟨p, -, hlimiter⟩ := ht.limiter_eq g hg
    have hname : g.name ≠ Config.defaultName :=
      (isDefault_eq_false_iff.1 (ht.not_default g hg)).2
    rw [hlimiter, if_neg hname]
    rfl

/-- A decision about a request with a budget asks the store once, for the key of the budget. -/
lemma Built.asked_decide (ht : Built (Setup.windowLimiter service timeout) c t)
    (h : t.budget? request = some x) (s : Window.Shared) :
    ∃ ask : Window.Ask, ask.key = x.key service ∧
      (t.decide Window.Limiter.reserve request s).2.1.asked = ask :: s.asked := by
  obtain ⟨hname, -⟩ := budget?_eq_some_iff.1 h
  refine ⟨(t.select request).1.limiter.ask x.event, ?_, ?_⟩
  · rw [ht.key_ask (select_mem t request), hname]
  · rw [decide_of_budget h, Window.Limiter.reserve, Window.Limiter.reserveFrom,
      Window.Shared.increment]
    cases s.link <;> rfl

end Admission.Router
