/-
# The limiters that a router asks for

While a router is built of a configuration, a limiter is asked for right before each group is
registered, that of the default group first.  Which limiters these are (`limitersAsked`) does not
depend on what is given for them.  A group has its limiter asked for exactly if all groups before it
have been registered (`getElem?_limitersAsked_iff`).  A router that comes out has asked for one
limiter a group (`limitersAsked_of_ofConfig`) and has each in its place (`limiters_of_ofConfig`).
Other limiters never matter (`ofConfig_congr`).
-/
import Admission.Proofs.Router.Accepting
import Admission.Proofs.Router.Mapping

namespace Admission.Router

variable {L : Type} {r : Router L} {limiter limiter' : Option String → Config.Params → L}
  {c : Config} {groups : List Config.Group} {g : Config.Group}

/-! ## Groups that are asked for -/

lemma bare_addGroup (r : Router L) (l : L) (name expression : String) :
    r.bare.addGroup () name expression = (r.addGroup l name expression).map bare :=
  (map_addGroup (fun _ => ()) r l name expression).symm

/-- The limiter of a group is asked for exactly if all groups before it are registered, whatever
limiters they are given. -/
lemma getElem?_groupsAsked_iff (limiter : Option String → Config.Params → L) {place : Nat} :
    (r.bare.groupsAsked groups)[place]? = some g ↔
      groups[place]? = some g ∧ ∃ t, r.addGroups limiter (groups.take place) = .ok t := by
  induction groups generalizing r place with
  | nil => simp [groupsAsked]
  | cons first groups ih =>
    rw [groupsAsked, bare_addGroup r (limiter (some first.name) first.params)]
    cases place with
    | zero =>
      simp only [List.getElem?_cons_zero, List.take_zero]
      exact (and_iff_left ⟨r, rfl⟩).symm
    | succ place =>
      simp only [List.getElem?_cons_succ, List.take_succ_cons, addGroups_cons_eq_ok_iff]
      cases r.addGroup (limiter (some first.name) first.params) first.name
          first.params.eventExpression with
      | error e => simp [Except.map]
      | ok s => simpa [Except.map] using ih

/-- If all groups are registered, all limiters are asked for. -/
lemma groupsAsked_of_addGroups {t : Router L} (h : r.addGroups limiter groups = .ok t) :
    r.bare.groupsAsked groups = groups := by
  induction groups generalizing r with
  | nil => rfl
  | cons first groups ih =>
    obtain ⟨s, hfirst, hrest⟩ := addGroups_cons_eq_ok_iff.1 h
    rw [groupsAsked, bare_addGroup r (limiter (some first.name) first.params), hfirst]
    exact congrArg (first :: ·) (ih hrest)

lemma addGroups_congr
    (h : ∀ g ∈ groups, limiter (some g.name) g.params = limiter' (some g.name) g.params) :
    r.addGroups limiter groups = r.addGroups limiter' groups := by
  induction groups generalizing r with
  | nil => rfl
  | cons first groups ih =>
    obtain ⟨hfirst, hrest⟩ := List.forall_mem_cons.1 h
    rw [addGroups, addGroups, List.foldlM_cons, List.foldlM_cons, hfirst]
    exact congrArg _ (funext fun s => ih hrest)

/-! ## Limiters that are asked for -/

/-- The limiters of a router, that of the default group first. -/
def limiters (r : Router L) : List L :=
  r.default.limiter :: r.groups.map (·.limiter)

lemma bare_make (l : L) (expression : String) :
    make () expression = (make l expression).map bare :=
  (map_make (fun _ => ()) l expression).symm

/-- Once a configuration has passed its check, the limiter of a named group is asked for exactly if
the default group and all groups before it are there. -/
lemma getElem?_limitersAsked_iff {place : Nat} {asked : Option String × Config.Params}
    (hvalid : c.validate = .ok ()) :
    (limitersAsked c)[place + 1]? = some asked ↔
      ∃ start, make (limiter none c.default) c.default.eventExpression = .ok start ∧
        (∃ t, start.addGroups limiter (c.groups.take place) = .ok t) ∧
        ∃ g, c.groups[place]? = some g ∧ (some g.name, g.params) = asked := by
  rw [limitersAsked, hvalid, bare_make (limiter none c.default)]
  simp only [List.getElem?_cons_succ]
  cases make (limiter none c.default) c.default.eventExpression with
  | error e => simp [Except.map]
  | ok start =>
    simp only [Except.map, List.getElem?_map, Option.map_eq_some_iff,
      getElem?_groupsAsked_iff limiter, Except.ok.injEq, exists_eq_left']
    constructor
    · rintro ⟨g, ⟨hg, hbefore⟩, hasked⟩
      exact ⟨hbefore, g, hg, hasked⟩
    · rintro ⟨hbefore, g, hg, hasked⟩
      exact ⟨g, ⟨hg, hbefore⟩, hasked⟩

/-- What is asked for when all goes well. -/
lemma limitersAsked_of_ofConfig (h : ofConfig limiter c = .ok r) :
    limitersAsked c = (none, c.default) :: c.groups.map fun g => (some g.name, g.params) := by
  simp only [ofConfig, bind_eq_ok_iff] at h
  obtain ⟨⟨⟩, hvalid, start, hstart, grouped, hgrouped, -⟩ := h
  rw [limitersAsked, hvalid, bare_make (limiter none c.default), hstart]
  simp only [Except.map, groupsAsked_of_addGroups hgrouped]

/-- **A router has the limiters that it has asked for**, each in its place. -/
theorem limiters_of_ofConfig (h : ofConfig limiter c = .ok r) :
    r.limiters = (limitersAsked c).map fun (name, params) => limiter name params := by
  rw [limitersAsked_of_ofConfig h]
  obtain ⟨-, e, groups, rules, -, hgroups, -, -, rfl⟩ := ofConfig_eq_ok_iff.1 h
  have hlimiters : groups.map (·.limiter) = c.groups.map fun g => limiter (some g.name) g.params :=
    map_eq_of_forall₂ hgroups fun _ _ hfollows => hfollows.limiter_eq
  rw [limiters, hlimiters, List.map_cons, List.map_map]
  rfl

/-- **No other limiters are looked at**, neither when a router is built nor when that fails. -/
theorem ofConfig_congr
    (h : ∀ asked ∈ limitersAsked c, limiter asked.1 asked.2 = limiter' asked.1 asked.2) :
    ofConfig limiter c = ofConfig limiter' c := by
  cases hrouter : ofConfig limiter c with
  | error e =>
    -- a failure shows without any limiters
    have hbare : (ofConfig limiter c).map bare = (ofConfig limiter' c).map bare :=
      (map_ofConfig (fun _ => ()) limiter c).trans (map_ofConfig (fun _ => ()) limiter' c).symm
    rw [hrouter] at hbare
    exact (map_eq_error_iff.1 hbare.symm).symm
  | ok r =>
    rw [limitersAsked_of_ofConfig hrouter] at h
    obtain ⟨hdefault, hgroups⟩ := List.forall_mem_cons.1 h
    have hsame : ∀ g ∈ c.groups, limiter (some g.name) g.params = limiter' (some g.name) g.params :=
      fun g hg => hgroups _ (List.mem_map_of_mem hg)
    rw [← hrouter]
    simp only [ofConfig, hdefault, addGroups_congr hsame]

end Admission.Router
