/-
# Routers built from configurations

Building a router registers its groups one by one and then its rules (`registered_of_ofConfig`).
The router that comes out is well formed, and the limiter of every group is the one that was made
for it (`Built`).
-/
import Admission.Proofs.Config.Check
import Admission.Proofs.Router.Registering

namespace Admission.Router

variable {L : Type} {r t : Router L}

/-- The router has the groups of a configuration, or some of them, with the limiters that were
made for them. -/
structure Built (limiter : Option String → Config.Params → L) (c : Config) (r : Router L) : Prop
    extends WellFormed r where
  default_limiter : r.default.limiter = limiter none c.default
  limiter_eq : ∀ g ∈ r.groups, ∃ p, ⟨g.name, p⟩ ∈ c.groups ∧ g.limiter = limiter (some g.name) p

variable {limiter : Option String → Config.Params → L} {c : Config}

lemma built_make {expression : String} (h : make (limiter none c.default) expression = .ok r) :
    Built limiter c r := by
  have hwell := wellFormed_make h
  obtain ⟨e, -, rfl⟩ := map_eq_ok_iff.1 h
  exact ⟨hwell, rfl, by simp⟩

lemma Built.addGroup {g : Config.Group} {expression : String} (hr : Built limiter c r)
    (hg : g ∈ c.groups)
    (h : r.addGroup (limiter (some g.name) g.params) g.name expression = .ok t) :
    Built limiter c t := by
  have hwell := hr.toWellFormed.addGroup h
  obtain ⟨-, -, e, -, rfl⟩ := addGroup_eq_ok_iff.1 h
  refine ⟨hwell, hr.default_limiter, ?_⟩
  intro g' hg'
  rcases List.mem_append.1 hg' with hold | hnew
  · exact hr.limiter_eq g' hold
  · obtain rfl := List.mem_singleton.1 hnew
    exact ⟨g.params, hg, rfl⟩

lemma Built.addRule {apiPattern expression : String} (hr : Built limiter c r)
    (h : r.addRule apiPattern expression = .ok t) : Built limiter c t := by
  have hwell := hr.toWellFormed.addRule h
  obtain ⟨p, e, -, -, -, rfl⟩ := addRule_eq_ok_iff.1 h
  exact ⟨hwell, hr.default_limiter, hr.limiter_eq⟩

/-- What a router has counted does not matter. -/
lemma Built.withStats (hr : Built limiter c r) (stats : Stats) : Built limiter c { r with stats } :=
  ⟨hr.toWellFormed.withStats stats, hr.default_limiter, hr.limiter_eq⟩

/-- The router of a configuration has its groups, under distinct names. -/
lemma built_ofConfig (h : ofConfig limiter c = .ok r) : Built limiter c r := by
  simp only [ofConfig, bind_eq_ok_iff] at h
  obtain ⟨-, -, start, hstart, grouped, hgroups, hrules⟩ := h
  have hgrouped : Built limiter c grouped :=
    foldlM_keeps (fun g hg _ _ hstep hs => hs.addGroup hg hstep) hgroups (built_make hstart)
  exact foldlM_keeps (fun _ _ _ _ hstep hs => hs.addRule hstep) hrules hgrouped

/-! ## The calls of a configuration -/

/-- The call that registers a group of a configuration. -/
def groupCall (limiter : Option String → Config.Params → L) (g : Config.Group) : Registration L :=
  .group (limiter (some g.name) g.params) g.name g.params.eventExpression

/-- The call that adds a rule of a configuration. -/
def ruleCall (rule : Config.Rule) : Registration L :=
  .rule rule.apiPattern rule.groupExpression

/-- Calls that all succeed register one after the other. -/
lemma registered_of_foldlM {α : Type} (f : α → Registration L) {xs : List α}
    (h : xs.foldlM (fun r x => r.attempt (f x)) r = .ok t) : r.registered (xs.map f) = t := by
  induction xs generalizing r with
  | nil => exact Except.ok.inj h
  | cons x xs ih =>
    rw [List.foldlM_cons, bind_eq_ok_iff] at h
    obtain ⟨s, hfirst, hrest⟩ := h
    have hregister : (r.register (f x)).1 = s := by rw [register_eq, hfirst]
    rw [List.map_cons, registered, List.foldl_cons, hregister]
    exact ih hrest

/-- The router of a configuration is what the calls for its groups and then those for its rules
make of the default group. -/
lemma registered_of_ofConfig (h : ofConfig limiter c = .ok r) :
    ∃ start, make (limiter none c.default) c.default.eventExpression = .ok start ∧
      start.registered (c.groups.map (groupCall limiter) ++ c.rules.map ruleCall) = r := by
  simp only [ofConfig, bind_eq_ok_iff] at h
  obtain ⟨-, -, start, hstart, grouped, hgroups, hrules⟩ := h
  have hgrouped : start.registered (c.groups.map (groupCall limiter)) = grouped :=
    registered_of_foldlM (groupCall limiter) hgroups
  have hruled : grouped.registered (c.rules.map ruleCall) = r :=
    registered_of_foldlM ruleCall hrules
  refine ⟨start, hstart, ?_⟩
  rw [← hruled, ← hgrouped]
  exact List.foldl_append

/-! ## The names of a configuration -/

lemma names_nodup_of_ofConfig (h : ofConfig limiter c = .ok r) :
    (c.groups.map (·.name)).Nodup := by
  simp only [ofConfig, bind_eq_ok_iff] at h
  obtain ⟨⟨⟩, hvalid, -⟩ := h
  exact (Config.validate_eq_ok_iff.1 hvalid).2.1

end Admission.Router
