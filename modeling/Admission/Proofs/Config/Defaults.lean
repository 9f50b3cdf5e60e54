/-
# The usual values

The usual values stand in two places.  They are the settings under all layers, and loading takes
them for what is not set (`lookup_defaultSettings`).  So layers that can be loaded on their own come
to the same over the usual values (`load_over_defaults`).  In particular a file on its own is read
like that of a service without variables (`load_layered_of_unlayered`).
-/
import Admission.Proofs.Config.Findings
import Admission.Proofs.Settings.Layers

namespace Admission.Config

open Settings (Fault GivesWay keyPath)

variable {d s t : Settings} {key : String} {layers : List Settings} {α : Type}
  {convert : Settings → Except Fault α} {found usual? : Option α}

/-! ## The usual values as settings -/

lemma listFree_defaultSettings : defaultSettings.ListFree := by
  refine Settings.listFree_table (List.forall_mem_singleton.2 ?_)
  refine Settings.listFree_table (List.forall_mem_singleton.2 ?_)
  refine Settings.listFree_table (List.forall_mem_cons.2 ⟨Settings.listFree_leaf _ _, ?_⟩)
  refine List.forall_mem_singleton.2 (Settings.listFree_table ?_)
  simp [Settings.listFree_leaf]

/-- What is found in the usual values is what loading takes for what is not set. -/
lemma lookup_defaultSettings :
    defaultSettings.lookup Settings.toBool enableKey = .ok (some false) ∧
    defaultSettings.lookup Settings.toWord quotaKey = .ok (some Params.standard.quota) ∧
    durationSetting defaultSettings intervalKey = .ok (some Params.standard.interval) ∧
    defaultSettings.lookup Settings.toText eventExpressionKey =
      .ok (some Params.standard.eventExpression) ∧
    defaultSettings.lookup (settingsFormat.list settingsFormat.group) groupsKey = .ok none ∧
    defaultSettings.lookup (settingsFormat.list settingsFormat.rule) matchKey = .ok none ∧
    durationSetting defaultSettings storeTimeoutKey = .ok none := by
  decide +kernel

/-! ## Settings over defaults -/

/-- No table is converted. -/
def RefusesTables (convert : Settings → Except Fault α) : Prop :=
  ∀ origin entries a, convert (.table origin entries) ≠ .ok a

lemma RefusesTables.isTable_eq_false (h : RefusesTables convert) {v : Settings} {a : α}
    (hv : convert v = .ok a) : v.isTable = false := by
  cases v with
  | table origin entries => exact absurd hv (h origin entries a)
  | _ => rfl

lemma refusesTables_toBool : RefusesTables Settings.toBool := by
  simp [RefusesTables, Settings.toBool]

lemma refusesTables_toWord : RefusesTables Settings.toWord := by
  simp [RefusesTables, Settings.toWord]

lemma refusesTables_toText : RefusesTables Settings.toText := by
  simp [RefusesTables, Settings.toText]

lemma refusesTables_list (read : Settings → Except Fault α) :
    RefusesTables (settingsFormat.list read) := by
  simp [RefusesTables, Format.list, settingsFormat, shapeOfSettings]

/-- What is found in settings is found over defaults too; where nothing is found it may be a
default. -/
lemma lookup_over (h : GivesWay d s t) (hconvert : RefusesTables convert)
    (hd : d.lookup convert key = .ok usual?) (hs : s.lookup convert key = .ok found) :
    t.lookup convert key = .ok found ∨ found = none ∧ t.lookup convert key = .ok usual? := by
  have htable : ∀ v, s.get? (keyPath key) = some v → v.isTable = false := by
    intro v hv
    rw [lookup_eq hv, mapError_eq_ok_iff, map_eq_ok_iff] at hs
    obtain ⟨a, ha, -⟩ := hs
    exact hconvert.isTable_eq_false ha
  rcases h.get?_eq htable with hsame | ⟨hnone, hdefault⟩
  · exact .inl ((lookup_congr convert hsame).trans hs)
  · rw [Settings.lookup, hnone] at hs
    exact .inr ⟨(Except.ok.inj hs).symm, (lookup_congr convert hdefault).trans hd⟩

lemma exists_lookup_of_durationSetting {found : Option Duration}
    (h : durationSetting s key = .ok found) :
    ∃ text?, s.lookup Settings.toText key = .ok text? := by
  cases hlookup : s.lookup Settings.toText key with
  | ok text? => exact ⟨text?, rfl⟩
  | error fault =>
    rw [durationSetting, hlookup] at h
    exact absurd h (by simp [sourced, Except.mapError])

lemma durationSetting_over (h : GivesWay d s t) {found usual? : Option Duration}
    (hd : durationSetting d key = .ok usual?) (hs : durationSetting s key = .ok found) :
    durationSetting t key = .ok found ∨ found = none ∧ durationSetting t key = .ok usual? := by
  obtain ⟨text?, htext⟩ := exists_lookup_of_durationSetting hs
  obtain ⟨usual?, husual⟩ := exists_lookup_of_durationSetting hd
  rcases lookup_over h refusesTables_toText husual htext with hsame | ⟨rfl, hdefault⟩
  · exact .inl ((durationSetting_congr (hsame.trans htext.symm)).trans hs)
  · rw [durationSetting, htext] at hs
    exact .inr ⟨(Except.ok.inj hs).symm,
      (durationSetting_congr (hdefault.trans husual.symm)).trans hd⟩

/-- A default that is the usual value does not show. -/
lemma getD_over {ε : Type} {x : Except ε (Option α)} {usual : α}
    (h : x = .ok found ∨ found = none ∧ x = .ok (some usual)) :
    ∃ found', x = .ok found' ∧ found'.getD usual = found.getD usual := by
  rcases h with h | ⟨rfl, h⟩
  · exact ⟨found, h, rfl⟩
  · exact ⟨some usual, h, rfl⟩

lemma eq_over {ε : Type} {x : Except ε (Option α)}
    (h : x = .ok found ∨ found = none ∧ x = .ok none) : x = .ok found := by
  rcases h with h | ⟨rfl, h⟩ <;> exact h

/-! ## Loading -/

/-- A switch that is read in settings is read the same over the usual values. -/
lemma enabled_over {on : Bool} (h : GivesWay defaultSettings s t) (hs : enabled s = .ok on) :
    enabled t = .ok on := by
  rw [enabled, sourced, mapError_eq_ok_iff, map_eq_ok_iff] at hs ⊢
  obtain ⟨found, hfound, rfl⟩ := hs
  exact getD_over (lookup_over h refusesTables_toBool lookup_defaultSettings.1 hfound)

/-- What is found in settings makes the same configuration as what is found over the usual
values. -/
lemma finds_over {f : Findings} (h : GivesWay defaultSettings s t) (hf : Finds s f) :
    ∃ f', Finds t f' ∧ f'.config = f.config := by
  obtain ⟨-, hquota, hinterval, hexpression, hgroups, hrules, htimeout⟩ := lookup_defaultSettings
  obtain ⟨quota, hquota, hsameQuota⟩ :=
    getD_over (lookup_over h refusesTables_toWord hquota hf.quota)
  obtain ⟨interval, hinterval, hsameInterval⟩ :=
    getD_over (durationSetting_over h hinterval hf.interval)
  obtain ⟨expression, hexpression, hsameExpression⟩ :=
    getD_over (lookup_over h refusesTables_toText hexpression hf.expression)
  refine ⟨{ f with quota, interval, expression }, ?_, ?_⟩
  · exact
      { enabled := enabled_over h hf.enabled
        quota := hquota
        interval := hinterval
        expression := hexpression
        groups := eq_over (lookup_over h (refusesTables_list _) hgroups hf.groups)
        rules := eq_over (lookup_over h (refusesTables_list _) hrules hf.rules)
        timeout := eq_over (durationSetting_over h htimeout hf.timeout) }
  · simp only [Findings.config, hsameQuota, hsameInterval, hsameExpression]

lemma load_of_givesWay {c? : Option Config} (h : GivesWay defaultSettings s t)
    (hload : load s = .ok c?) : load t = .ok c? := by
  cases c? with
  | none =>
    have hoff : enabled s = .ok false := enabled_of_off (load_eq_none_iff.1 hload)
    rw [load, enabled_over h hoff]
  | some c =>
    obtain ⟨f, hf, rfl⟩ := load_eq_some_iff.1 hload
    obtain ⟨f', hf', hsame⟩ := finds_over h hf
    exact load_eq_some_iff.2 ⟨f', hf', hsame⟩

/-- **The usual values say what loading takes for granted.**  Layers that can be loaded on their own
can be laid over the usual values, and it makes no difference. -/
theorem load_over_defaults {c? : Option Config} (hs : Settings.ofLayers? .empty layers = some s)
    (hload : load s = .ok c?) :
    ∃ t, Settings.ofLayers? defaultSettings layers = some t ∧ load t = .ok c? := by
  have hover := Settings.givesWay_ofLayers? listFree_defaultSettings layers
  rw [hs] at hover
  generalize Settings.ofLayers? defaultSettings layers = t? at hover ⊢
  cases hover with
  | some h => exact ⟨_, rfl, load_of_givesWay h hload⟩

/-- A file that can be loaded on its own comes to the same in a service without variables. -/
theorem load_layered_of_unlayered {c? : Option Config} {file : Settings}
    (hs : unlayered? file = some s) (hload : load s = .ok c?) :
    ∃ t, layered? (some file) [] = some t ∧ load t = .ok c? := by
  -- the environment is a layer without entries
  have hlayers : layered? (some file) [] = Settings.ofLayers? defaultSettings [file] :=
    Settings.ofLayers?_append_empty defaultSettings [file]
  rw [hlayers]
  exact load_over_defaults hs hload

end Admission.Config
