/-
# What is found in settings

Loading looks up some settings, each for itself, and fills in the usual values where there is
nothing.  So settings load exactly if something is found under every key, which may be that there is
nothing (`load_eq_some_iff`), and settings with another value under one key are found to be the same
under all others (`Puts.lookup_other`).
-/
import Admission.Proofs.Config.Loading

namespace Admission.Config

open Settings (Fault)

/-- What is looked up in settings; a value that is not there is left open. -/
structure Findings where
  /-- The quota of the default group. -/
  quota : Option UInt64
  /-- The interval of the default group. -/
  interval : Option Duration
  /-- The event expression of the default group. -/
  expression : Option String
  /-- The named groups. -/
  groups : Option (List Group)
  /-- The match rules. -/
  rules : Option (List Rule)
  /-- The deadline of round trips to the store. -/
  timeout : Option Duration

/-- The configuration that is made of what has been found. -/
def Findings.config (f : Findings) : Config :=
  ⟨⟨f.quota.getD Params.standard.quota, f.interval.getD Params.standard.interval,
      f.expression.getD Params.standard.eventExpression⟩,
    f.groups.getD [], f.rules.getD [], f.timeout⟩

/-- Rate limiting is on in the settings, and this is what is found in them. -/
structure Finds (s : Settings) (f : Findings) : Prop where
  enabled : enabled s = .ok true
  quota : s.lookup Settings.toWord quotaKey = .ok f.quota
  interval : durationSetting s intervalKey = .ok f.interval
  expression : s.lookup Settings.toText eventExpressionKey = .ok f.expression
  groups : s.lookup (settingsFormat.list settingsFormat.group) groupsKey = .ok f.groups
  rules : s.lookup (settingsFormat.list settingsFormat.rule) matchKey = .ok f.rules
  timeout : durationSetting s storeTimeoutKey = .ok f.timeout

variable {s t value : Settings} {c : Config} {key : String}

/-! ## Loading -/

lemma load_of_enabled (h : enabled s = .ok true) : load s = (loadEnabled s).map some := by
  rw [load, h]

lemma load_eq_some_iff : load s = .ok (some c) ↔ ∃ f, Finds s f ∧ f.config = c := by
  constructor
  · intro h
    have hon : enabled s = .ok true := by
      rw [load] at h
      split at h
      · exact absurd h (by simp)
      · exact absurd h (by simp)
      · assumption
    rw [load_of_enabled hon, map_eq_ok_iff] at h
    obtain ⟨c', h, hc⟩ := h
    obtain rfl := Option.some.inj hc
    rw [loadEnabled] at h
    obtain ⟨quota, hquota, h⟩ := bind_eq_ok_iff.1 h
    obtain ⟨interval, hinterval, h⟩ := bind_eq_ok_iff.1 h
    obtain ⟨expression, hexpression, h⟩ := bind_eq_ok_iff.1 h
    obtain ⟨groups, hgroups, h⟩ := bind_eq_ok_iff.1 h
    obtain ⟨rules, hrules, h⟩ := bind_eq_ok_iff.1 h
    obtain ⟨timeout, htimeout, h⟩ := bind_eq_ok_iff.1 h
    exact ⟨⟨quota, interval, expression, groups, rules, timeout⟩,
      ⟨hon, mapError_eq_ok_iff.1 hquota, hinterval, mapError_eq_ok_iff.1 hexpression,
        mapError_eq_ok_iff.1 hgroups, mapError_eq_ok_iff.1 hrules, htimeout⟩, Except.ok.inj h⟩
  · rintro ⟨f, hf, rfl⟩
    rw [load_of_enabled hf.enabled, map_eq_ok_iff]
    refine ⟨f.config, ?_, rfl⟩
    simp only [loadEnabled, sourced, hf.quota, hf.interval, hf.expression, hf.groups, hf.rules,
      hf.timeout, Except.mapError, bind, Except.bind]
    rfl

/-- Where nothing is found although rate limiting is on, loading fails. -/
lemma exists_load_error (hon : enabled s = .ok true) (h : ∀ f, ¬ Finds s f) :
    ∃ e, load s = .error e := by
  cases hload : load s with
  | error e => exact ⟨e, rfl⟩
  | ok result =>
    cases result with
    | none =>
      rw [load_of_enabled hon, map_eq_ok_iff] at hload
      obtain ⟨c, -, hc⟩ := hload
      exact absurd hc (by simp)
    | some c =>
      obtain ⟨f, hf, -⟩ := load_eq_some_iff.1 hload
      exact absurd hf (h f)

lemma lookup_eq {α : Type} {convert : Settings → Except Fault α}
    (h : t.get? (Settings.keyPath key) = some value) :
    t.lookup convert key = ((convert value).map some).mapError (Fault.forKey key) := by
  rw [Settings.lookup, h]
  dsimp only
  cases convert value <;> rfl

lemma lookup_congr {α : Type} (convert : Settings → Except Fault α)
    (h : t.get? (Settings.keyPath key) = s.get? (Settings.keyPath key)) :
    t.lookup convert key = s.lookup convert key := by
  rw [Settings.lookup, Settings.lookup, h]

lemma durationSetting_congr (h : t.lookup Settings.toText key = s.lookup Settings.toText key) :
    durationSetting t key = durationSetting s key := by
  rw [durationSetting, durationSetting, h]

/-! ## Another value under a key -/

/-- The settings that are looked up. -/
def keys : List String :=
  [enableKey, quotaKey, intervalKey, eventExpressionKey, groupsKey, matchKey, storeTimeoutKey]

/-- The settings `t` have the value under the key, and are otherwise like `s`. -/
structure Puts (key : String) (value : Settings) (s t : Settings) : Prop where
  get?_key : t.get? (Settings.keyPath key) = some value
  get?_other : ∀ other ∈ keys, other ≠ key →
    t.get? (Settings.keyPath other) = s.get? (Settings.keyPath other)

section puts

variable (h : Puts key value s t) {other : String} (hother : other ∈ keys) (hne : other ≠ key)

include h hother hne

lemma Puts.lookup_other {α : Type} (convert : Settings → Except Fault α) :
    t.lookup convert other = s.lookup convert other :=
  lookup_congr convert (h.get?_other other hother hne)

lemma Puts.durationSetting_other : durationSetting t other = durationSetting s other :=
  durationSetting_congr (h.lookup_other hother hne _)

end puts

lemma Puts.enabled_eq (h : Puts key value s t) (hne : enableKey ≠ key) : enabled t = enabled s := by
  rw [enabled, enabled, h.lookup_other (by decide) hne]

end Admission.Config
