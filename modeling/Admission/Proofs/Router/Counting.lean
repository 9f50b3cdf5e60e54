/-
# Counting what rules could not place

A router counts the requests that a rule leaves to the default group, for each of the two reasons.
It does so before it knows whether the request has an event and what the limiter will say, so the
counters agree with the requests that have come and not with the decisions that were given back
(`decisions_follow_resolution`).
-/
import Admission.Proofs.Router.Resolution
import Mathlib.Data.List.Induction

namespace Admission.Router

variable {L σ : Type} {r : Router L} {request : Request}

/-! ## Requests that fall back -/

namespace Fallback

/-- The rule named no registered group. -/
def isUnknownGroup : Fallback → Bool
  | .unknownGroup _ => true
  | .evaluationFailed _ => false

/-- The rule named no group at all. -/
def isEvaluationFailed : Fallback → Bool
  | .unknownGroup _ => false
  | .evaluationFailed _ => true

end Fallback

/-- The request is left to the default group, for a reason of this kind. -/
def FallsBack (r : Router L) (kind : Fallback → Bool) (request : Request) : Prop :=
  ∃ g reason, r.Resolves request g (some reason) ∧ kind reason = true

lemma fallsBack_iff {kind : Fallback → Bool} :
    r.FallsBack kind request ↔ (r.select request).2.any kind = true := by
  constructor
  · rintro ⟨g, reason, hresolves, hkind⟩
    rw [hresolves.select_of_fallback]
    exact hkind
  · intro h
    have hresolves := resolves_select r request
    cases hreason : (r.select request).2 with
    | none => simp [hreason] at h
    | some reason =>
      rw [hreason] at h hresolves
      exact ⟨_, reason, hresolves, h⟩

instance (r : Router L) (kind : Fallback → Bool) (request : Request) :
    Decidable (r.FallsBack kind request) :=
  decidable_of_iff _ fallsBack_iff.symm

lemma Stats.record_eq (s : Stats) (fallback : Option Fallback) :
    s.record fallback =
      ⟨s.unknownGroup + if fallback.any Fallback.isUnknownGroup then 1 else 0,
        s.evaluationFailed + if fallback.any Fallback.isEvaluationFailed then 1 else 0⟩ := by
  rcases fallback with _ | name | reason <;> rfl

/-! ## Runs -/

/-- A request that comes to a router, and how the limiters behave meanwhile. -/
structure Arrival (L σ : Type) where
  /-- The request. -/
  request : Request
  /-- Asks a limiter for a token of an event. -/
  reserve : L → String → σ → σ × Except Failure Reservation

/-- The router and the budgets after one request more. -/
def handle (now : Router L × σ) (a : Arrival L σ) : Router L × σ :=
  ((now.1.decide a.reserve a.request now.2).1, (now.1.decide a.reserve a.request now.2).2.1)

/-- The router and the budgets after a run. -/
def handleAll (r : Router L) (arrivals : List (Arrival L σ)) (s : σ) : Router L × σ :=
  arrivals.foldl handle (r, s)

lemma handleAll_snoc (r : Router L) (arrivals : List (Arrival L σ)) (a : Arrival L σ) (s : σ) :
    r.handleAll (arrivals ++ [a]) s = handle (r.handleAll arrivals s) a := by
  simp [handleAll]

/-- A run changes nothing of a router but the counters, which go up with every request that falls
back for their reason. -/
lemma handleAll_fst (r : Router L) (arrivals : List (Arrival L σ)) (s : σ) :
    (r.handleAll arrivals s).1 =
      { r with stats :=
        ⟨r.stats.unknownGroup + arrivals.countP (r.FallsBack Fallback.isUnknownGroup ·.request),
          r.stats.evaluationFailed +
            arrivals.countP (r.FallsBack Fallback.isEvaluationFailed ·.request)⟩ } := by
  induction arrivals using List.reverseRecOn with
  | nil => rfl
  | append_singleton arrivals a ih =>
    -- counting plays no part in the selection, so the next request is selected for as by `r`
    have hselect : (r.handleAll arrivals s).1.select a.request = r.select a.request := by
      rw [ih]
      rfl
    rw [handleAll_snoc, handle, decide_fst, hselect, Stats.record_eq, ih]
    simp only [List.countP_append, List.countP_singleton, decide_eq_true_eq, fallsBack_iff,
      Nat.add_assoc]

/-! ## Decisions -/

/-- What a request gets from a group: the fault of its event expression, or what the limiter says
about its event. -/
def Group.serve (g : Group L) (fallback : Option Fallback) (a : Arrival L σ) (s : σ) :
    σ × Except Failure Decision :=
  match g.event a.request with
  | .error e => (s, .error (.error e))
  | .ok event =>
    let (s, outcome) := a.reserve g.limiter event s
    (s, outcome.map fun reservation => ⟨g.name, event, reservation, fallback⟩)

lemma decide_eq (r : Router L) (a : Arrival L σ) (s : σ) :
    r.decide a.reserve a.request s =
      ({ r with stats := r.stats.record (r.select a.request).2 },
        (r.select a.request).1.serve (r.select a.request).2 a s) := by
  rw [decide, Group.serve]
  cases hevent : (r.select a.request).1.event a.request <;> simp only [hevent]

/-- **Decisions follow the resolution of requests, and so do the counters.**  Rules stand in the
order of the calls that added them.  After any run a request is decided about by the group that it
resolves to, with the fallback that it resolves to, and the counters are the numbers of the
requests so far that resolved to their fallback, whatever these were answered. -/
theorem decisions_follow_resolution {limiter : L} {expression : String} {start : Router L}
    (h : make limiter expression = .ok start) (calls : List (Registration L))
    (arrivals : List (Arrival L σ)) (s : σ) :
    let r := start.registered calls
    let now := r.handleAll arrivals s
    (∀ earlier, earlier <+: calls → (start.registered earlier).rules <+: r.rules) ∧
    (∀ a : Arrival L σ, ∃ group fallback,
      (∀ g f, r.Resolves a.request g f ↔ g = group ∧ f = fallback) ∧
      now.1.decide a.reserve a.request now.2 =
        ({ r with stats := now.1.stats.record fallback }, group.serve fallback a now.2)) ∧
    now.1.stats =
      ⟨arrivals.countP (r.FallsBack Fallback.isUnknownGroup ·.request),
        arrivals.countP (r.FallsBack Fallback.isEvaluationFailed ·.request)⟩ := by
  intro r now
  have hr : WellFormed r := (wellFormed_make h).registered calls
  have hnow : now.1 = _ := handleAll_fst r arrivals s
  refine ⟨fun earlier hearlier => rules_prefix_registered start hearlier, fun a => ?_, ?_⟩
  · refine ⟨(r.select a.request).1, (r.select a.request).2, fun g f => ?_, ?_⟩
    · rw [hr.resolves_iff, Prod.ext_iff, eq_comm, eq_comm (a := f)]
    · rw [decide_eq, hnow]
      rfl
  · have hstart : r.stats = ⟨0, 0⟩ := by
      obtain ⟨e, -, rfl⟩ := map_eq_ok_iff.1 h
      exact (default_registered _ calls).2
    rw [hnow, hstart]
    simp only [Nat.zero_add]

/-- A run in which no request is answered with a reservation: two anonymous ones have no event in
the default group, and the limiter does not answer about the third. -/
theorem decisions_follow_resolution_to_errors :
    let subject := "\x7b\x7b.Identity.Subject\x7d\x7d"
    let start : Router Unit :=
      ⟨⟨"default", (), ⟨subject, .print (.path ["Identity", "Subject"]) .done⟩⟩, [], [], ⟨0, 0⟩⟩
    let calls : List (Registration Unit) := [.group () "api" "", .rule "/x" "web",
      .rule "/x" "\x7b\x7b.Header.Tier\x7d\x7d", .rule "/*" "\x7b\x7b.Identity.Plan\x7d\x7d"]
    let tiered := (Request.make "GET" "/x").withHeader "Tier" " gold "
    let reserve := fun (_ : Unit) event asked => (event :: asked, .error .unanswered)
    let arrivals : List (Arrival Unit (List String)) := [⟨tiered, reserve⟩,
      ⟨Request.make "GET" "/y", reserve⟩, ⟨tiered.withIdentity (.user "u"), reserve⟩]
    let now := (start.registered calls).handleAll arrivals []
    make () subject = .ok start ∧ now.2 = ["u"] ∧ now.1.stats = ⟨2, 1⟩ := by
  intro subject start calls tiered reserve arrivals now
  have hexpression : Template.compile subject =
      .ok ⟨subject, .print (.path ["Identity", "Subject"]) .done⟩ := by decide +kernel
  have hmake : make () subject = .ok start := by
    rw [make, compile, hexpression]
    rfl
  refine ⟨hmake, by decide +kernel, ?_⟩
  have hstats := (decisions_follow_resolution hmake calls arrivals []).2.2
  exact hstats.trans (by decide +kernel)

end Admission.Router
