/-
# Limits in a shared store and limits inside the process

A service can be set up with limits in a shared store or with limits inside the process.  The two
set-ups share everything but the budgets: they accept the same settings, refuse the others for the
same reason, send every request to the same place and count the same
(`wirings_differ_in_budgets`).  Both are a bare router with limiters put in, and a run of either
does to the bare router what the requests say, whatever the limiters answer.  So a configuration
can be checked without a store.
-/
import Admission.Command
import Admission.Proofs.Router.Mapping
import Admission.Proofs.Setup.Faults

namespace Admission

open Config (Off On)
open Router (Arrival Placement bare)
open Window (Ask Attempt)

namespace Setup

variable {L M : Type} {service : String} {s : Settings}

/-! ## What a set-up makes besides limiters -/

/-- Set-ups with different limiters make the same bare router or fail alike. -/
lemma bare_routed (limiter : Config → Option String → Config.Params → L)
    (limiter' : Config → Option String → Config.Params → M) (s : Settings) :
    (routed limiter s).map bare = (routed limiter' s).map bare := by
  rw [routed, routed]
  cases configuration s with
  | error e => rfl
  | ok c =>
    calc (Router.ofConfig (limiter c) c).map bare
      _ = Router.ofConfig (fun _ _ => ()) c := Router.map_ofConfig _ _ c
      _ = (Router.ofConfig (limiter' c) c).map bare :=
        (Router.map_ofConfig (fun _ => ()) (limiter' c) c).symm

lemma bare_shared (service : String) (s : Settings) :
    (shared service s).map bare = (inProcess s).map bare := by
  rw [shared_eq_routed, inProcess_eq_routed]
  exact bare_routed _ _ s

lemma configuration_eq_ok_iff {c : Config} :
    configuration s = .ok c ↔ Config.load s = .ok (some c) := by
  rw [configuration]
  split <;> simp_all

lemma exists_shared_iff : (∃ r, shared service s = .ok r) ↔ ∃ r, inProcess s = .ok r := by
  have h := bare_shared service s
  cases hs : shared service s <;> cases hp : inProcess s <;> simp_all [Except.map]

/-! ## The same requests at both routers -/

/-- A request that comes to a router over a shared store and to one inside the process. -/
structure Twin (σ : Type) where
  /-- The request. -/
  request : Request
  /-- What the store does meanwhile. -/
  store : σ → Ask → σ × Attempt
  /-- The time inside the process. -/
  now : Instant

namespace Twin

variable {σ : Type}

/-- The arrival at the router over the shared store. -/
def atShared (a : Twin σ) : Arrival Window.Limiter σ :=
  ⟨a.request, Window.Limiter.reserveFrom a.store⟩

/-- The arrival at the router inside the process. -/
def inside (a : Twin σ) : Arrival LocalLimiter LocalBudgets :=
  ⟨a.request, fun l event budgets => l.reserve event { budgets with now := a.now }⟩

/-- The window limiter adds the deadline to the faults of the store. -/
lemma atShared_fault {a : Twin σ} (h : Window.OwnFaults a.store) (l : Window.Limiter)
    (event : String) (s : σ) (e : Error)
    (he : (a.atShared.reserve l event s).2 = .error (.error e)) :
    e.isEvaluation = false := by
  have hconclude : l.conclude (a.store s (l.ask event)).2 = .error (.error e) := he
  have hanswer : Router.answer (fun count => ⟨"", event, l.judge count, none⟩) l.timeout
      (a.store s (l.ask event)).2 = .error (.error e) := by
    rw [← Router.map_conclude l (fun r => ⟨"", event, r, none⟩), hconclude]
    rfl
  exact Error.not_evaluation_of_infrastructure
    (Router.infrastructure_of_answer hanswer fun own hown => h _ _ own hown)

/-- Buckets have no faults but delays that are too long. -/
lemma inside_fault (a : Twin σ) (l : LocalLimiter) (event : String) (b : LocalBudgets) (e : Error) :
    (a.inside.reserve l event b).2 ≠ .error (.error e) := by
  intro he
  simp only [inside, LocalLimiter.reserve, LocalLimiter.outcome] at he
  split at he
  · exact absurd he (by simp)
  · exact absurd (Except.error.inj he) (by simp)

end Twin

end Setup

/-! ## The command -/

namespace Command

variable {s : Settings}

lemma toList_prefix_configContext {opening rest : String} (h : opening ++ rest = configContext) :
    opening.toList <+: configContext.toList :=
  ⟨rest.toList, by rw [← String.toList_append, h]⟩

/-- No error reads like the context of errors in a configuration: it opens otherwise. -/
lemma message_ne_configContext (e : Error) : e.message ≠ configContext := by
  intro h
  unfold Error.message at h
  cases e <;> simp only [String.append_assoc] at h <;>
    exact absurd (toList_prefix_configContext h) (by decide +kernel)

/-- Settings from which limits inside the process can be set up are accepted. -/
lemma validate_of_ok {r : Router LocalLimiter} (h : Setup.inProcess s = .ok r) :
    ∃ c, ∀ dump, validate dump s = if dump then ⟨[], some c, none⟩ else .silent := by
  obtain ⟨c, hconfiguration, hrouter⟩ := bind_eq_ok_iff.1 h
  refine ⟨c, fun dump => ?_⟩
  rw [validate, Setup.configuration_eq_ok_iff.1 hconfiguration]
  simp only [hrouter]

/-- All other settings are refused, or skipped if rate limiting is off. -/
lemma validate_of_error {e : Error} (h : Setup.inProcess s = .error e) (dump : Bool) :
    (validate dump s).dump = none ∧ (¬ Off s → (validate dump s).failure ≠ none) := by
  rw [validate]
  split
  · exact ⟨rfl, fun _ => by simp [Report.failed]⟩
  · rename_i hload
    exact ⟨rfl, fun hon => absurd (Config.load_eq_none_iff.1 hload) hon⟩
  · rename_i c hload
    have hrouter : Router.ofConfig Setup.localLimiter c = .error e := by
      rw [Setup.inProcess, Setup.configuration_eq_ok_iff.2 hload] at h
      exact h
    simp only [hrouter]
    exact ⟨rfl, fun _ => by simp [Report.failedIn]⟩

/-- Settings in which rate limiting is not off pass the check if limits inside the process can be
set up from them. -/
lemma failure_validate_eq_none_iff (dump : Bool) (h : ¬ Off s) :
    (validate dump s).failure = none ↔ ∃ r, Setup.inProcess s = .ok r := by
  cases hsetup : Setup.inProcess s with
  | error e => simp [(validate_of_error hsetup dump).2 h]
  | ok r =>
    obtain ⟨c, hreport⟩ := validate_of_ok hsetup
    rw [hreport]
    cases dump <;> simp [Report.silent]

/-- A configuration is shown if limits inside the process can be set up from it. -/
lemma isSome_dump_validate_iff :
    (validate true s).dump.isSome = true ↔ ∃ r, Setup.inProcess s = .ok r := by
  cases hsetup : Setup.inProcess s with
  | error e => simp [(validate_of_error hsetup true).1]
  | ok r =>
    obtain ⟨c, hreport⟩ := validate_of_ok hsetup
    simp [hreport]

/-- A check of a request ends with an error in the context of a configuration if no router can be
set up; the errors of decisions come without a context. -/
lemma failure_checkWith_iff {σ : Type} (store : σ → Ask → σ × Attempt) (start : σ) (what : Check)
    (h : ¬ Off s) :
    (∃ causes, (checkWith store start what s).failure = some (configContext, causes)) ↔
      ¬ ∃ r, Setup.shared what.service s = .ok r := by
  rw [checkWith]
  cases hsetup : Setup.shared what.service s with
  | error e =>
    obtain ⟨-, hfaulty⟩ :=
      (Setup.off_or_faulty_of_routed _ hsetup).resolve_left fun hoff => h hoff.1
    simp [(Error.families_of_config hfaulty).1, Report.failedIn]
  | ok r =>
    simp only [Except.ok.injEq, exists_eq', not_true_eq_false, iff_false, not_exists]
    intro causes
    split
    · simp
    · rename_i e hrun
      intro hfailure
      exact message_ne_configContext e (congrArg Prod.fst (Option.some.inj hfailure))
    · intro hfailure
      have hcontext : "the store does not answer" = configContext :=
        congrArg Prod.fst (Option.some.inj hfailure)
      exact absurd hcontext (by decide)

end Command

/-! ## Both wirings -/

namespace Setup

open Router (placed?)

/-- **The two set-ups differ in the budgets only.**  From the same settings a router over a shared
store and one inside the process are set up, or neither is and the error is the same.  When the same
requests come to both, starting from any budgets and whatever the store does, the counters are the
same after every run, and the next request is placed alike, or has the same fault of evaluation, as
far as the answers tell: an answer that the store or the limiter failed to give does not.  So a
configuration that is checked without a store is accepted exactly if a router can be set up with the
store in memory, whatever store servers are within reach. -/
theorem wirings_differ_in_budgets (service : String) (s : Settings) :
    ((∃ e, shared service s = .error e ∧ inProcess s = .error e) ∨
      ∃ there here, shared service s = .ok there ∧ inProcess s = .ok here ∧
        ∀ {σ : Type} (run : List (Twin σ)) (store : σ) (budgets : LocalBudgets),
          let there := there.handleAll (run.map Twin.atShared) store
          let here := here.handleAll (run.map Twin.inside) budgets
          there.1.stats = here.1.stats ∧
          ∀ a : Twin σ, Window.OwnFaults a.store → ∀ told told',
            placed? (there.1.decide a.atShared.reserve a.request there.2).2.2 = some told →
            placed? (here.1.decide a.inside.reserve a.request here.2).2.2 = some told' →
            told = told') ∧
    (∀ {ν : Type} (network : Command.Network ν) what clock, what.redis = none →
      ((Command.validate true s).dump.isSome = true ↔ ∃ r, shared what.service s = .ok r) ∧
      (On s → ∀ dump,
        ((Command.validate dump s).failure = none ↔ ∃ r, shared what.service s = .ok r) ∧
        ((∃ r, shared what.service s = .ok r) ↔ ∀ causes,
          (Command.check network what clock s).failure ≠
            some (Command.configContext, causes)))) := by
  refine ⟨?_, fun network what clock hmemory => ⟨?_, fun hon dump => ⟨?_, ?_⟩⟩⟩
  · have hbare := bare_shared service s
    cases hthere : shared service s with
    | error e =>
      rw [hthere] at hbare
      exact .inl ⟨e, rfl, map_eq_error_iff.1 hbare.symm⟩
    | ok there =>
      rw [hthere] at hbare
      obtain ⟨here, hhere, hsame⟩ := map_eq_ok_iff.1 hbare.symm
      refine .inr ⟨there, here, rfl, hhere, fun run store budgets => ?_⟩
      intro there' here'
      -- a run does to the bare routers what the requests say
      have hrun : there'.1.bare = here'.1.bare := by
        rw [Router.bare_handleAll, Router.bare_handleAll, List.map_map, List.map_map, hsame]
        rfl
      refine ⟨congrArg Router.stats hrun, fun a hstore told told' htold htold' => ?_⟩
      have hthere : there'.1.placement a.request = told :=
        Router.placement_of_placed? (a := a.atShared) (a.atShared_fault hstore) htold
      have hhere : here'.1.placement a.request = told' :=
        Router.placement_of_placed? (a := a.inside)
          (fun l event b e he => absurd he (a.inside_fault l event b e)) htold'
      rw [← hthere, ← hhere, ← Router.placement_bare, hrun, Router.placement_bare]
  · exact Command.isSome_dump_validate_iff.trans exists_shared_iff.symm
  · exact (Command.failure_validate_eq_none_iff dump (Config.not_off_of_on hon)).trans
      exists_shared_iff.symm
  · rw [← not_exists, Command.check, hmemory,
      Command.failure_checkWith_iff _ _ what (Config.not_off_of_on hon), not_not]

/-- Settings in which the header `Tier` names the group of a request, and there are no groups; the
events are the callers. -/
def tiered : Settings :=
  let caller := "\x7b\x7b.Identity.Subject\x7d\x7d"
  let rule : Settings := .table none [("api_pattern", .leaf none (.text "/*")),
    ("group_expression", .leaf none (.text "\x7b\x7b.Header.Tier\x7d\x7d"))]
  let auth : Settings := .table none [("enable", .leaf none (.bool true)),
    ("default", .table none [("event_expression", .leaf none (.text caller))]),
    ("match", .list none [rule])]
  .table none [("ratelimits", .table none [("auth", auth)])]

/-- A request that finds no group comes while the store is stalled, and an anonymous one after
it. -/
theorem wirings_differ_in_budgets_when_stalled :
    let gold := ((Request.make "GET" "/x").withHeader "Tier" "gold").withIdentity (.user "u")
    let run : List (Twin Nat) := [⟨gold, fun n _ => (n + 1, .stalled), ⟨0⟩⟩]
    let next : Twin Nat := ⟨Request.make "GET" "/y", fun n _ => (n, .failed (.io "reset")), ⟨7⟩⟩
    ∃ there here, shared "svc" tiered = .ok there ∧ inProcess tiered = .ok here ∧
      (here.handleAll (run.map Twin.inside) (.empty ⟨0⟩)).1.stats = ⟨1, 0⟩ ∧
      placed? ((here.handleAll (run.map Twin.inside) (.empty ⟨0⟩)).1.decide next.inside.reserve
        next.request (here.handleAll (run.map Twin.inside) (.empty ⟨0⟩)).2).2.2 =
        some (.error (.evaluate (.nilField "Subject"))) ∧
      (Command.validate false tiered).failure = none := by
  intro gold run next
  have hon : On tiered := ⟨_, rfl, rfl⟩
  have hstore : Window.OwnFaults next.store := by
    intro n ask e he
    obtain rfl := Attempt.failed.inj he
    rfl
  obtain ⟨hsetup, hcommand⟩ := wirings_differ_in_budgets "svc" tiered
  -- what the router over the store does is read off a run of it
  have hthere : (shared "svc" tiered).map (fun r =>
      let now := r.handleAll (run.map Twin.atShared) 0
      (now.1.stats, placed? (now.1.decide next.atShared.reserve next.request now.2).2.2)) =
      .ok (⟨1, 0⟩, some (.error (.evaluate (.nilField "Subject")))) := by
    decide +kernel
  have hhere : (inProcess tiered).map (fun r =>
      let now := r.handleAll (run.map Twin.inside) (.empty ⟨0⟩)
      (placed? (now.1.decide next.inside.reserve next.request now.2).2.2).isSome) = .ok true := by
    decide +kernel
  rcases hsetup with ⟨e, he, -⟩ | ⟨there, here, hshared, hlocal, hruns⟩
  · rw [he] at hthere
    exact absurd hthere (by simp [Except.map])
  · rw [hshared] at hthere
    rw [hlocal] at hhere
    obtain ⟨hstats, htold⟩ := Prod.ext_iff.1 (Except.ok.inj hthere)
    obtain ⟨told', htold'⟩ := Option.isSome_iff_exists.1 (Except.ok.inj hhere)
    obtain ⟨hsame, halike⟩ := hruns run 0 (.empty ⟨0⟩)
    refine ⟨there, here, hshared, hlocal, hsame.symm.trans hstats, ?_, ?_⟩
    · rw [halike next hstore _ told' htold htold']
      exact htold'
    · let what : Command.Check := ⟨"/x", "GET", none, none, false, [], 1, none, "svc"⟩
      exact (((hcommand .offline what ⟨0, ⟨0⟩⟩ rfl).2 hon false).1).2 ⟨there, hshared⟩

end Setup

end Admission
