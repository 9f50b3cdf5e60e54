/-
# What can be wrong when a configuration is loaded

Settings are looked up one by one, converted and read as records, and the configuration that comes
out is checked later on.  Every fault on the way is one of the configuration
(`load_failsOnly`, `validate_failsOnly`).  Whether anything but the switch is looked at is settled
by the switch alone (`enabled_of_off`, `enabled_of_on`).
-/
import Admission.Config.Loading
import Admission.Proofs.Outcomes

namespace Admission

/-- The families of errors are disjoint. -/
lemma Error.families_of_config {e : Error} (h : e.isConfig = true) :
    e.isDisabled = false ∧ e.isInfrastructure = false ∧ e.isEvaluation = false := by
  cases e <;> first | exact ⟨rfl, rfl, rfl⟩ | exact absurd h Bool.false_ne_true

namespace Config

/-! ## The switch -/

/-- The value of the setting that switches rate limiting on, if there is one. -/
def switch? (s : Settings) : Option Settings :=
  s.get? ["ratelimits", "auth", "enable"]

/-- Rate limiting is off: the switch is not set, or its value reads as false. -/
def Off (s : Settings) : Prop :=
  switch? s = none ∨ ∃ value, switch? s = some value ∧ value.toBool = .ok false

/-- Rate limiting is on: the value of the switch reads as true. -/
def On (s : Settings) : Prop :=
  ∃ value, switch? s = some value ∧ value.toBool = .ok true

variable {s : Settings}

lemma keyPath_enableKey : Settings.keyPath enableKey = ["ratelimits", "auth", "enable"] := by
  decide +kernel

lemma enabled_of_off (h : Off s) : enabled s = .ok false := by
  rw [enabled, Settings.lookup, keyPath_enableKey]
  rcases h with hnone | ⟨value, hsome, hfalse⟩
  · rw [switch?] at hnone
    rw [hnone]
    rfl
  · rw [switch?] at hsome
    simp only [hsome, hfalse]
    rfl

lemma enabled_of_on (h : On s) : enabled s = .ok true := by
  obtain ⟨value, hsome, htrue⟩ := h
  rw [switch?] at hsome
  rw [enabled, Settings.lookup, keyPath_enableKey]
  simp only [hsome, htrue]
  rfl

lemma not_off_of_on (h : On s) : ¬ Off s := by
  intro hoff
  have hboth : (.ok true : Except Error Bool) = .ok false :=
    (enabled_of_on h).symm.trans (enabled_of_off hoff)
  exact absurd hboth (by simp)

/-- A switch that can be read is on or off. -/
lemma off_or_on_of_enabled {b : Bool} (h : enabled s = .ok b) : if b then On s else Off s := by
  rw [enabled, Settings.lookup, keyPath_enableKey] at h
  cases hswitch : switch? s with
  | none =>
    rw [switch?] at hswitch
    rw [hswitch] at h
    obtain rfl : false = b := by simpa [sourced, Except.mapError, Except.map] using h
    exact .inl hswitch
  | some value =>
    have hget := hswitch
    rw [switch?] at hget
    rw [hget] at h
    cases hvalue : value.toBool with
    | error fault => simp [hvalue, sourced, Except.mapError, Except.map] at h
    | ok b' =>
      obtain rfl : b' = b := by simpa [hvalue, sourced, Except.mapError, Except.map] using h
      cases b' with
      | true => exact ⟨value, hswitch, hvalue⟩
      | false => exact .inr ⟨value, hswitch, hvalue⟩

/-! ## Faults -/

/-- The error is one of the configuration. -/
def Faulty (e : Error) : Prop := e.isConfig = true

lemma sourced_failsOnly {α : Type} (r : Except Settings.Fault α) : FailsOnly Faulty (sourced r) :=
  .mapError r fun _ => rfl

lemma durationSetting_failsOnly (s : Settings) (key : String) :
    FailsOnly Faulty (durationSetting s key) := by
  rw [durationSetting]
  split
  · rename_i e he
    exact .error (sourced_failsOnly _ e he)
  · exact .ok _
  · split
    · exact .ok _
    · exact .error rfl

lemma loadEnabled_failsOnly (s : Settings) : FailsOnly Faulty (loadEnabled s) := by
  rw [loadEnabled]
  refine (sourced_failsOnly _).bind fun quota => ?_
  refine (durationSetting_failsOnly s _).bind fun interval => ?_
  refine (sourced_failsOnly _).bind fun expression => ?_
  -- the faults of lists say which list they were found in
  refine FailsOnly.bind (.mapError _ ?groups) fun groups => ?_
  case groups => exact fun _ => rfl
  refine FailsOnly.bind (.mapError _ ?rules) fun rules => ?_
  case rules => exact fun _ => rfl
  exact (durationSetting_failsOnly s _).bind fun timeout => .ok _

lemma load_failsOnly (s : Settings) : FailsOnly Faulty (load s) := by
  rw [load]
  split
  · rename_i e he
    exact .error (sourced_failsOnly _ e he)
  · exact .ok _
  · exact (loadEnabled_failsOnly s).map

/-- Settings are loaded as no configuration exactly if rate limiting is off. -/
lemma load_eq_none_iff : load s = .ok none ↔ Off s := by
  constructor
  · intro h
    rw [load] at h
    split at h
    · exact absurd h (by simp)
    · rename_i hoff
      exact off_or_on_of_enabled hoff
    · obtain ⟨c, -, hc⟩ := map_eq_ok_iff.1 h
      exact absurd hc (by simp)
  · intro h
    rw [load, enabled_of_off h]

lemma params_validate_failsOnly (p : Params) (group : String) :
    FailsOnly Faulty (p.validate group) := by
  rw [Params.validate]
  split
  · exact .error rfl
  · split
    · exact .error rfl
    · exact .ok _

lemma validateGroups_failsOnly (seen : List String) (groups : List Group) :
    FailsOnly Faulty (validateGroups seen groups) := by
  induction groups generalizing seen with
  | nil => exact .ok _
  | cons g groups ih =>
    rw [validateGroups]
    split
    · exact .error rfl
    · split
      · exact .error rfl
      · split
        · rename_i e he
          exact .error (params_validate_failsOnly _ _ e he)
        · exact ih _

lemma validate_failsOnly (c : Config) : FailsOnly Faulty c.validate := by
  rw [validate]
  split
  · rename_i e he
    exact .error (params_validate_failsOnly _ _ e he)
  · exact validateGroups_failsOnly _ _

end Config

end Admission
