/-
# What the check of a configuration says

A configuration is checked before a router is built of it.  The check walks along the groups and
carries the names it has seen.  It passes exactly if all numbers are positive and every group has a
name of its own that is neither blank nor the default group's (`validate_eq_ok_iff`).
-/
import Admission.Config
import Mathlib.Tactic.Common

namespace Admission.Config

/-- What the check demands of the numbers of a group. -/
structure Params.Positive (p : Params) : Prop where
  quota_ne : p.quota ≠ 0
  interval_ne : p.interval.nanos ≠ 0

/-- What the check demands of a group without regard to the other ones. -/
structure Group.Proper (g : Group) : Prop where
  not_blank : Text.trimmed g.name ≠ ""
  not_default : g.name ≠ defaultName
  positive : g.params.Positive

lemma Params.validate_eq_ok_iff {p : Params} {group : String} :
    p.validate group = .ok () ↔ p.Positive := by
  rw [Params.validate]
  by_cases hquota : p.quota = 0
  · rw [if_pos hquota]
    exact ⟨fun h => absurd h (by simp), fun h => absurd hquota h.quota_ne⟩
  · rw [if_neg hquota]
    by_cases hinterval : p.interval.nanos = 0
    · rw [if_pos hinterval]
      exact ⟨fun h => absurd h (by simp), fun h => absurd hinterval h.interval_ne⟩
    · rw [if_neg hinterval]
      exact ⟨fun _ => ⟨hquota, hinterval⟩, fun _ => rfl⟩

/-- One group passes if it is proper and its name has not been seen. -/
lemma validateGroups_cons_eq_ok_iff {seen : List String} {g : Group} {groups : List Group} :
    validateGroups seen (g :: groups) = .ok () ↔
      g.Proper ∧ g.name ∉ seen ∧ validateGroups (g.name :: seen) groups = .ok () := by
  rw [validateGroups]
  by_cases hblank : Text.trimmed g.name = ""
  · rw [if_pos hblank]
    exact ⟨fun h => absurd h (by simp), fun h => absurd hblank h.1.not_blank⟩
  · rw [if_neg hblank]
    by_cases htaken : g.name = defaultName ∨ g.name ∈ seen
    · rw [if_pos htaken]
      refine ⟨fun h => absurd h (by simp), fun h => ?_⟩
      exact absurd htaken (not_or.2 ⟨h.1.not_default, h.2.1⟩)
    · rw [if_neg htaken]
      obtain ⟨hdefault, hseen⟩ := not_or.1 htaken
      cases hparams : g.params.validate g.name with
      | error e =>
        refine ⟨fun h => absurd h (by simp), fun h => ?_⟩
        have hok : g.params.validate g.name = .ok () := Params.validate_eq_ok_iff.2 h.1.positive
        exact absurd (hparams.symm.trans hok) (by simp)
      | ok _ =>
        have hpositive := Params.validate_eq_ok_iff.1 hparams
        exact ⟨fun h => ⟨⟨hblank, hdefault, hpositive⟩, hseen, h⟩, fun h => h.2.2⟩

/-- All groups pass if each of them is proper and no name comes twice, counting those that have
been seen before. -/
lemma validateGroups_eq_ok_iff {seen : List String} {groups : List Group} :
    validateGroups seen groups = .ok () ↔
      (groups.map (·.name)).Nodup ∧ ∀ g ∈ groups, g.Proper ∧ g.name ∉ seen := by
  induction groups generalizing seen with
  | nil => simp [validateGroups]
  | cons g groups ih =>
    rw [validateGroups_cons_eq_ok_iff, ih, List.map_cons, List.nodup_cons, List.forall_mem_cons]
    constructor
    · -- the names seen so far grow with the recursion, so the rest is free of this name as well
      rintro ⟨hproper, hseen, hnodup, hrest⟩
      refine ⟨⟨?_, hnodup⟩, ⟨hproper, hseen⟩, fun other hother => ?_⟩
      · intro hmem
        obtain ⟨other, hother, hname⟩ := List.mem_map.1 hmem
        exact (hrest other hother).2 (hname ▸ List.mem_cons_self)
      · obtain ⟨hother, hfree⟩ := hrest other hother
        exact ⟨hother, fun hmem => hfree (List.mem_cons_of_mem _ hmem)⟩
    · rintro ⟨⟨hfresh, hnodup⟩, ⟨hproper, hseen⟩, hrest⟩
      refine ⟨hproper, hseen, hnodup, fun other hother => ?_⟩
      obtain ⟨hproper', hseen'⟩ := hrest other hother
      refine ⟨hproper', fun hmem => ?_⟩
      rcases List.mem_cons.1 hmem with hsame | hmem
      · exact hfresh (hsame ▸ List.mem_map_of_mem hother)
      · exact hseen' hmem

lemma validate_eq_ok_iff {c : Config} :
    c.validate = .ok () ↔
      c.default.Positive ∧ (c.groups.map (·.name)).Nodup ∧ ∀ g ∈ c.groups, g.Proper := by
  rw [validate]
  cases hdefault : c.default.validate defaultName with
  | error e =>
    refine ⟨fun h => absurd h (by simp), fun h => ?_⟩
    have hok : c.default.validate defaultName = .ok () := Params.validate_eq_ok_iff.2 h.1
    exact absurd (hdefault.symm.trans hok) (by simp)
  | ok _ =>
    have hpositive := Params.validate_eq_ok_iff.1 hdefault
    simp only [validateGroups_eq_ok_iff, List.not_mem_nil, not_false_eq_true, and_true,
      hpositive, true_and]

end Admission.Config
