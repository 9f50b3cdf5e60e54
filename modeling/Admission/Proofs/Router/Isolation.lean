/-
# Isolation of budgets

Requests of one budget should not be able to use up another one.  In a router over a shared store
this holds of all budgets that do not clash: what is decided about a request after a run is what
would be decided if only the requests of its own budget had come (`outcome_eq_own`).  Budgets that
clash are counted under one key, so a group whose name goes on behind another group's name and a
colon can be starved from there (`starved_by_clash`).
-/
import Admission.Proofs.Router.Traffic
import Admission.Proofs.Window.Ledger
import Mathlib.Data.List.Basic

namespace Admission.Router

open Window (Ask Clock Link Shared Store)

variable {service : String} {settings : Settings} {r : Router Window.Limiter} {x y : Budget}

/-! ## Keys in a router that has been set up -/

lemma built_shared (h : Setup.shared service settings = .ok r) :
    ∃ timeout c, Built (Setup.windowLimiter service timeout) c r := by
  simp only [Setup.shared, bind_eq_ok_iff] at h
  obtain ⟨c, -, hrouter⟩ := h
  exact ⟨c.storeTimeout, c, built_ofConfig hrouter⟩

/-- After any run a request with a budget asks once, for the key of the budget. -/
lemma asked_after (h : Setup.shared service settings = .ok r) {request : Request}
    (hx : r.budget? request = some x) (visits : List Visit) (s : Shared) :
    ∃ ask : Ask, ask.key = x.key service ∧
      ((r.after visits).1.decide Window.Limiter.reserve request s).2.1.asked = ask :: s.asked := by
  obtain ⟨timeout, c, hr⟩ := built_shared h
  obtain ⟨stats, hstats⟩ := after_fst (r := r) visits
  rw [hstats]
  exact (hr.withStats stats).asked_decide hx s

/-- The step of a visit counts the key of the budget that the visit takes from. -/
lemma key_of_step? (h : Setup.shared service settings = .ok r) {visit : Visit} {key : String}
    {epoch : UInt64} {step : Store.Step} (hstep : visit.step? r = some step)
    (hcounts : step.counts key epoch = true) :
    ∃ y, visit.budget? r = some y ∧ y.event ≠ "" ∧ y.key service = key := by
  obtain ⟨timeout, c, hr⟩ := built_shared h
  cases visit with
  | arrive request link clock =>
    obtain ⟨y, hy, hcall⟩ := Option.bind_eq_some_iff.1 hstep
    refine ⟨y, hy, budget?_event_ne_empty hy, ?_⟩
    obtain ⟨window, clock', rfl, -⟩ := Store.Step.counts_eq_true_iff.1 hcounts
    cases link with
    | up =>
      obtain ⟨hkey, -⟩ := Store.Step.increment.inj (Option.some.inj hcall)
      rw [← hkey, hr.key_ask (select_mem r request), (budget?_eq_some_iff.1 hy).1]
    | failing e => exact absurd hcall (by simp [Window.Call.step?])
    | stalled => exact absurd hcall (by simp [Window.Call.step?])
  | sweep clock =>
    cases hstep
    exact absurd hcounts (by simp [Store.Step.counts])

/-! ## Runs without clashes -/

/-- Leaving out what the rest of a computation would drop changes nothing. -/
lemma filter_filterMap_filter {α β : Type} {f : α → Option β} {p : α → Bool} {q : β → Bool}
    {as : List α} (h : ∀ a ∈ as, ∀ b, f a = some b → q b = true → p a = true) :
    (as.filterMap f).filter q = ((as.filter p).filterMap f).filter q := by
  rw [List.filter_filterMap, List.filter_filterMap, List.filterMap_filter]
  refine List.filterMap_congr fun a ha => ?_
  cases hf : f a with
  | none => simp
  | some b =>
    by_cases hq : q b = true
    · simp [h a ha b hf hq]
    · simp [Option.filter, hq]

/-- What is decided about a request that reaches the store is the verdict on what the ledger
answers. -/
lemma outcome_up {visits : List Visit} {request : Request} {clock : Clock} {c : Window.Count}
    (hx : r.budget? request = some x)
    (htime : Visit.InOrder (visits ++ [.arrive request .up clock]))
    (hc : (Window.Ledger.blank.run (visits.filterMap (Visit.step? r))).answer
      (.increment ((r.select request).1.limiter.ask x.event).key
        (r.select request).1.limiter.interval clock) = some c) :
    r.outcome visits request .up clock =
      .ok ⟨x.group, x.event, (r.select request).1.limiter.judge c, (r.select request).2⟩ := by
  have hstep : (Visit.arrive request .up clock).step? r =
      some (.increment ((r.select request).1.limiter.ask x.event).key
        (r.select request).1.limiter.interval clock) := by
    rw [Visit.step?, hx]
    rfl
  have htimely := Visit.timely_visits (r := r) htime
  rw [List.filterMap_append, List.filterMap_cons_some hstep, List.filterMap_nil] at htimely
  have hcount := (Window.answer_run_eq htimely).trans hc
  rw [outcome_of_budget hx, Window.reserve_up, store_after, Option.some.inj hcount]
  rfl

/-- If no visit takes from a budget that clashes with that of a request, what is decided about the
request depends on the visits that take from its own budget only. -/
lemma outcome_eq_own (h : Setup.shared service settings = .ok r) {visits : List Visit}
    {request : Request} {link : Link} {clock : Clock} (hx : r.budget? request = some x)
    (htime : Visit.InOrder (visits ++ [.arrive request link clock]))
    (hclash : ∀ visit ∈ visits, ∀ y, visit.budget? r = some y →
      ¬ x.Clashes y ∧ ¬ y.Clashes x) :
    r.outcome visits request link clock =
      r.outcome (visits.filter fun visit => visit.budget? r = some x) request link clock := by
  cases link with
  | up =>
    obtain ⟨timeout, c, hr⟩ := built_shared h
    have hkey : ((r.select request).1.limiter.ask x.event).key = x.key service := by
      rw [hr.key_ask (select_mem r request), (budget?_eq_some_iff.1 hx).1]
    -- a visit that counts the key of the request takes from its budget
    have hown : ∀ visit ∈ visits, ∀ step, visit.step? r = some step → ∀ epoch,
        step.counts (x.key service) epoch = true → visit.budget? r = some x := by
      intro visit hvisit step hstep epoch hcounts
      obtain ⟨y, hy, hevent, hsame⟩ := key_of_step? h hstep hcounts
      rw [Budget.key_eq_iff hevent (budget?_event_ne_empty hx)] at hsame
      obtain ⟨hxy, hyx⟩ := hclash visit hvisit y hy
      rcases hsame with rfl | hsame | hsame
      · exact hy
      · exact absurd hsame hyx
      · exact absurd hsame hxy
    have hownTime : Visit.InOrder ((visits.filter fun visit => visit.budget? r = some x) ++
        [.arrive request .up clock]) :=
      List.Pairwise.sublist (List.filter_sublist.append_right _) htime
    rw [outcome_up hx htime rfl, outcome_up hx hownTime (Window.Ledger.answer_run_congr ?_)]
    rw [hkey]
    refine (filter_filterMap_filter fun visit hvisit step hstep hcounts => ?_).symm
    exact decide_eq_true (hown visit hvisit step hstep _ hcounts)
  | failing e => rw [outcome_of_budget hx, outcome_of_budget hx]; rfl
  | stalled => rw [outcome_of_budget hx, outcome_of_budget hx]; rfl

/-! ## The exact extent of isolation -/

/-- **Budgets are isolated unless they clash.**  In every router that is set up over a shared
store, decisions name the budgets of their requests.  A decision about a request that has a budget
asks for one key, whatever happened before, and two requests ask for the same key exactly if their
budgets are the same or clash.  In every run in which no budget clashes with that of a request,
what is decided about the request is what would be decided if only the requests of its own budget
had come. -/
theorem isolated_unless_clashing (h : Setup.shared service settings = .ok r) :
    (∀ visits request link clock d, r.outcome visits request link clock = .ok d →
      r.budget? request = some ⟨d.group, d.event⟩) ∧
      (∀ x y a b, r.budget? a = some x → r.budget? b = some y →
        ∀ (before before' : List Visit) (s s' : Shared), ∃ ask ask' : Ask,
          ((r.after before).1.decide Window.Limiter.reserve a s).2.1.asked = ask :: s.asked ∧
          ((r.after before').1.decide Window.Limiter.reserve b s').2.1.asked = ask' :: s'.asked ∧
          (ask.key = ask'.key ↔ x = y ∨ x.Clashes y ∨ y.Clashes x)) ∧
      ∀ x visits request link clock, r.budget? request = some x →
        Visit.InOrder (visits ++ [.arrive request link clock]) →
        (∀ visit ∈ visits, ∀ y, visit.budget? r = some y → ¬ x.Clashes y ∧ ¬ y.Clashes x) →
        r.outcome visits request link clock =
          r.outcome (visits.filter fun visit => visit.budget? r = some x) request link clock := by
  refine ⟨fun visits request link clock d hd => budget?_of_outcome hd, ?_,
    fun x visits request link clock hx htime hclash => outcome_eq_own h hx htime hclash⟩
  intro x y a b hx hy before before' s s'
  obtain ⟨ask, hkey, hask⟩ := asked_after h hx before s
  obtain ⟨ask', hkey', hask'⟩ := asked_after h hy before' s'
  refine ⟨ask, ask', hask, hask', ?_⟩
  rw [hkey, hkey']
  exact Budget.key_eq_iff (budget?_event_ne_empty hx) (budget?_event_ne_empty hy)

/-! ## Names with a colon -/

/-- Settings with the groups `a` and `a:b`, each with one token a minute for the value of the
header `E`, for the paths `/x` and `/y`. -/
def nestedNames : Settings :=
  let group (name : String) : Settings := .table none [("name", .leaf none (.text name)),
    ("quota", .leaf none (.int 1)),
    ("event_expression", .leaf none (.text "\x7b\x7b.Header.E\x7d\x7d"))]
  let rule (path name : String) : Settings := .table none
    [("api_pattern", .leaf none (.text path)), ("group_expression", .leaf none (.text name))]
  let auth : Settings := .table none [("enable", .leaf none (.bool true)),
    ("groups", .list none [group "a", group "a:b"]),
    ("match", .list none [rule "/x" "a", rule "/y" "a:b"])]
  .table none [("ratelimits", .table none [("auth", auth)])]

/-- Two budgets of these settings that do not clash, a request that does not get through and a
sweep: the second group has its token as if nothing had happened. -/
theorem isolated_from_other_groups :
    let other := (Request.make "GET" "/x").withHeader "E" "b"
    let default := Request.make "GET" "/z"
    let request := (Request.make "GET" "/y").withHeader "E" "c"
    let visits : List Visit := [.arrive other .up ⟨60000, ⟨60000000000⟩⟩,
      .arrive request (.failing (.store "down")) ⟨60001, ⟨60001000000⟩⟩,
      .arrive default .up ⟨60002, ⟨60002000000⟩⟩, .sweep ⟨60003, ⟨60003000000⟩⟩]
    let clock : Clock := ⟨60004, ⟨60004000000⟩⟩
    ∃ r, Setup.shared "svc" nestedNames = .ok r ∧
      r.outcome visits request .up clock =
        r.outcome [.arrive request (.failing (.store "down")) ⟨60001, ⟨60001000000⟩⟩] request .up
          clock := by
  intro other default request visits clock
  have hrun : (Setup.shared "svc" nestedNames).map (fun r => (r.budget? request,
        visits.map (Visit.budget? r),
        visits.filter fun visit => visit.budget? r = some ⟨"a:b", "c"⟩)) =
      .ok (some ⟨"a:b", "c"⟩,
        [some ⟨"a", "b"⟩, some ⟨"a:b", "c"⟩, some ⟨"default", "@anonymous"⟩, none],
        [.arrive request (.failing (.store "down")) ⟨60001, ⟨60001000000⟩⟩]) := by
    decide +kernel
  obtain ⟨r, hr, hvalues⟩ := map_eq_ok_iff.1 hrun
  simp only [Prod.mk.injEq] at hvalues
  obtain ⟨hbudget, hbudgets, hown⟩ := hvalues
  have htime : Visit.InOrder (visits ++ [.arrive request .up clock]) := by decide +kernel
  refine ⟨r, hr, ?_⟩
  rw [(isolated_unless_clashing hr).2.2 _ visits request .up clock hbudget htime, hown]
  intro visit hvisit y hy
  have hmem : some y ∈ visits.map (Visit.budget? r) := List.mem_map.2 ⟨visit, hvisit, hy⟩
  rw [hbudgets] at hmem
  simp only [List.mem_cons, Option.some.injEq, reduceCtorEq, List.not_mem_nil, or_false] at hmem
  rcases hmem with rfl | rfl | rfl <;> decide

/-- Two different budgets of these settings that clash: a request for one of them takes the only
token of the other. -/
theorem starved_by_clash :
    let first := (Request.make "GET" "/x").withHeader "E" "b:c"
    let second := (Request.make "GET" "/y").withHeader "E" "c"
    let clock : Clock := ⟨60000, ⟨60000000000⟩⟩
    ∃ r, Setup.shared "svc" nestedNames = .ok r ∧
      r.budget? first = some ⟨"a", "b:c"⟩ ∧ r.budget? second = some ⟨"a:b", "c"⟩ ∧
      (∃ d, r.outcome [] second .up clock = .ok d ∧ d.reservation.isOk = true) ∧
      ∃ d, r.outcome [.arrive first .up clock] second .up clock = .ok d ∧
        d.reservation.isOk = false := by
  intro first second clock
  have hrun : (Setup.shared "svc" nestedNames).map (fun r => (r.budget? first,
        r.budget? second, (r.select first).1.limiter, (r.select second).1.limiter)) =
      .ok (some ⟨"a", "b:c"⟩, some ⟨"a:b", "c"⟩,
        ⟨"svc:rate:g:a", .ofSeconds 60, 1, none⟩, ⟨"svc:rate:g:a:b", .ofSeconds 60, 1, none⟩) := by
    decide +kernel
  obtain ⟨r, hr, hvalues⟩ := map_eq_ok_iff.1 hrun
  simp only [Prod.mk.injEq] at hvalues
  obtain ⟨hfirst, hsecond, hlimiter, hlimiter'⟩ := hvalues
  have hvisits : [Visit.arrive first .up clock].filterMap (Visit.step? r) =
      [.increment "svc:rate:g:a:b:c" (.ofSeconds 60) clock] := by
    rw [List.filterMap_cons, Visit.step?, hfirst, hlimiter]
    rfl
  have halone : r.outcome [] second .up clock =
      .ok ⟨"a:b", "c", (r.select second).1.limiter.judge ⟨1, .ofSeconds 60, 1⟩,
        (r.select second).2⟩ := by
    refine outcome_up hsecond (by decide +kernel) ?_
    rw [hlimiter', List.filterMap_nil]
    decide +kernel
  have hlater : r.outcome [.arrive first .up clock] second .up clock =
      .ok ⟨"a:b", "c", (r.select second).1.limiter.judge ⟨2, .ofSeconds 60, 1⟩,
        (r.select second).2⟩ := by
    refine outcome_up hsecond (by decide +kernel) ?_
    rw [hlimiter', hvisits]
    decide +kernel
  rw [hlimiter'] at halone hlater
  exact ⟨r, hr, hfirst, hsecond, ⟨_, halone, rfl⟩, ⟨_, hlater, rfl⟩⟩

end Admission.Router
