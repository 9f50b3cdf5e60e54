/-
# What can be wrong when a router is set up

A set-up that does not end with a router says that rate limiting is switched off or names a fault
of the configuration, and callers treat the two in opposite ways: they go on without limits, or
they stop.  The switch alone decides which of the two it can be
(`switched_off_or_misconfigured`).  The faults of a set-up are collected from those of its steps,
whatever limiters the groups get, so both kinds of routers are covered by one lemma.
-/
import Admission.Proofs.Config.Loading
import Admission.Proofs.Router.Asking

namespace Admission

open Config (Faulty Off On)

namespace Router

variable {L : Type}

/-! ## Building -/

lemma compile_failsOnly (expression : String) : FailsOnly Faulty (compile expression) :=
  .mapError _ fun _ => rfl

lemma make_failsOnly (limiter : L) (expression : String) :
    FailsOnly Faulty (make limiter expression) :=
  (compile_failsOnly expression).map

lemma addGroup_failsOnly (r : Router L) (limiter : L) (name expression : String) :
    FailsOnly Faulty (r.addGroup limiter name expression) := by
  rw [addGroup]
  split
  · exact .error rfl
  · exact (compile_failsOnly expression).map

lemma addRule_failsOnly (r : Router L) (pattern expression : String) :
    FailsOnly Faulty (r.addRule pattern expression) := by
  rw [addRule]
  split
  · rename_i e hpattern
    obtain ⟨fault, -, rfl⟩ := mapError_eq_error_iff.1 hpattern
    exact .error rfl
  · split
    · rename_i e hexpression
      exact .error (compile_failsOnly expression e hexpression)
    · simp only
      split
      · exact .ok _
      · -- a rule for all requests may name a group that there is not
        split
        · exact .ok _
        · exact .error rfl

/-- No limiter has a say in what is wrong with a configuration. -/
lemma ofConfig_failsOnly (limiter : Option String → Config.Params → L) (c : Config) :
    FailsOnly Faulty (ofConfig limiter c) := by
  refine (Config.validate_failsOnly c).bind fun _ => ?_
  refine (make_failsOnly _ _).bind fun r => ?_
  refine FailsOnly.bind (.foldlM (fun r g => addGroup_failsOnly r _ _ _) _ _) fun r => ?_
  exact .foldlM (fun r rule => addRule_failsOnly r _ _) _ _

end Router

namespace Setup

variable {L : Type} {s : Settings}

/-- The router that settings ask for, with limiters that may depend on the configuration. -/
def routed (limiter : Config → Option String → Config.Params → L) (s : Settings) :
    Except Error (Router L) := do
  let c ← configuration s
  Router.ofConfig (limiter c) c

lemma shared_eq_routed (service : String) (s : Settings) :
    shared service s = routed (fun c => windowLimiter service c.storeTimeout) s := rfl

lemma inProcess_eq_routed (s : Settings) : inProcess s = routed (fun _ => localLimiter) s := rfl

lemma routed_of_off (limiter : Config → Option String → Config.Params → L) (h : Off s) :
    routed limiter s = .error (.disabled Config.enableKey) := by
  rw [routed, configuration, Config.load_eq_none_iff.2 h]
  rfl

/-- A set-up says that rate limiting is off if it is, and otherwise fails with faults of the
configuration. -/
lemma off_or_faulty_of_routed (limiter : Config → Option String → Config.Params → L) {e : Error}
    (h : routed limiter s = .error e) :
    (Off s ∧ e = .disabled Config.enableKey) ∨ (¬ Off s ∧ Faulty e) := by
  by_cases hoff : Off s
  · rw [routed_of_off limiter hoff] at h
    exact .inl ⟨hoff, (Except.error.inj h).symm⟩
  · refine .inr ⟨hoff, ?_⟩
    rcases bind_eq_error_iff.1 h with hconfiguration | ⟨c, -, hrouter⟩
    · rw [configuration] at hconfiguration
      split at hconfiguration
      · rename_i fault hload
        obtain rfl := Except.error.inj hconfiguration
        exact Config.load_failsOnly s _ hload
      · rename_i hload
        exact absurd (Config.load_eq_none_iff.1 hload) hoff
      · exact absurd hconfiguration (by simp)
    · exact Router.ofConfig_failsOnly _ c e hrouter

/-- **The switch tells limits that are off from limits that are wrong.**  If rate limiting is off,
there is no configuration and both set-ups say so, whatever else the settings hold.  If it is on,
no set-up says that it is off.  Every failure to load or to set up is that report or a fault of the
configuration, and never both. -/
theorem switched_off_or_misconfigured (service : String) (s : Settings) :
    (Off s → Config.load s = .ok none ∧
      shared service s = .error (.disabled "ratelimits.auth.enable") ∧
      inProcess s = .error (.disabled "ratelimits.auth.enable")) ∧
    (On s → ∀ e, shared service s = .error e ∨ inProcess s = .error e → e.isDisabled = false) ∧
    (∀ e, Config.load s = .error e ∨ shared service s = .error e ∨ inProcess s = .error e →
      (Off s ∧ e = .disabled "ratelimits.auth.enable") ∨
        (¬ Off s ∧ e.isConfig = true ∧ e.isDisabled = false ∧ e.isInfrastructure = false ∧
          e.isEvaluation = false)) := by
  have hsetup : ∀ e, shared service s = .error e ∨ inProcess s = .error e →
      (Off s ∧ e = .disabled Config.enableKey) ∨ (¬ Off s ∧ Faulty e) := by
    rintro e (hshared | hlocal)
    · rw [shared_eq_routed] at hshared
      exact off_or_faulty_of_routed _ hshared
    · rw [inProcess_eq_routed] at hlocal
      exact off_or_faulty_of_routed _ hlocal
  refine ⟨fun hoff => ?_, fun hon e he => ?_, fun e he => ?_⟩
  · rw [shared_eq_routed, inProcess_eq_routed]
    exact ⟨Config.load_eq_none_iff.2 hoff, routed_of_off _ hoff, routed_of_off _ hoff⟩
  · rcases hsetup e he with ⟨hoff, -⟩ | ⟨-, hfaulty⟩
    · exact absurd hoff (Config.not_off_of_on hon)
    · exact (Error.families_of_config hfaulty).1
  · have hcases : (Off s ∧ e = .disabled Config.enableKey) ∨ (¬ Off s ∧ Faulty e) := by
      rcases he with hload | he
      · refine .inr ⟨fun hoff => ?_, Config.load_failsOnly s e hload⟩
        rw [Config.load_eq_none_iff.2 hoff] at hload
        exact absurd hload (by simp)
      · exact hsetup e he
    rcases hcases with hoff | ⟨hoff, hfaulty⟩
    · exact .inl hoff
    · exact .inr ⟨hoff, hfaulty, Error.families_of_config hfaulty⟩

/-- Settings with this switch in which nothing else can be read: a quota in words, groups that are
no list and an interval that is one. -/
def misshapen (switch : Settings.Leaf) : Settings :=
  let limits : Settings := .table none
    [("quota", .leaf none (.text "many")), ("interval", .list none [])]
  let auth : Settings := .table none [("groups", .leaf none (.int 5)), ("default", limits),
    ("match", .leaf none .null), ("enable", .leaf none switch)]
  .table none [("ratelimits", .table none [("auth", auth)])]

/-- Unreadable settings are no matter while they are switched off, and one once they are on. -/
theorem switched_off_or_misshapen :
    Config.load (misshapen (.text "OFF")) = .ok none ∧
      inProcess (misshapen (.text "OFF")) = .error (.disabled "ratelimits.auth.enable") ∧
      ∃ e, inProcess (misshapen (.int (-2))) = .error e ∧
        e.isConfig = true ∧ e.isDisabled = false := by
  have hoff : Off (misshapen (.text "OFF")) := .inr ⟨_, rfl, by decide +kernel⟩
  have hon : On (misshapen (.int (-2))) := ⟨_, rfl, rfl⟩
  obtain ⟨hload, -, hlocal⟩ :=
    (switched_off_or_misconfigured "svc" (misshapen (.text "OFF"))).1 hoff
  refine ⟨hload, hlocal, ?_⟩
  -- a minus two is as good as a true, so this is about the quota in words
  have hfails : (inProcess (misshapen (.int (-2)))).isOk = false := by decide +kernel
  obtain ⟨-, hswitched, hfailures⟩ := switched_off_or_misconfigured "svc" (misshapen (.int (-2)))
  cases he : inProcess (misshapen (.int (-2))) with
  | ok r => simp [he, Except.isOk, Except.toBool] at hfails
  | error e =>
    have hdisabled : e.isDisabled = false := hswitched hon e (.inr he)
    rcases hfailures e (.inr (.inr he)) with ⟨-, rfl⟩ | ⟨-, hconfig, -⟩
    · exact absurd hdisabled (by decide)
    · exact ⟨e, rfl, hconfig, hdisabled⟩

end Setup

end Admission
