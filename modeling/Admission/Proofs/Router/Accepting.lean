/-
# Configurations that are accepted

Building a router checks the configuration, registers its groups in order and then adds its rules
in order.  The check and the registrations have demands of their own.  Together they ask for no more
and no less than a well-formed configuration (`Config.WellFormed`), and the router that comes out
has the groups and the rules of the configuration (`ofConfig_ok_iff_wellFormed`).  Rules do not
touch the groups, so what a rule needs to know is the same for all of them.
-/
import Admission.Proofs.Config.Check
import Admission.Proofs.Router.Registering
import Mathlib.Data.List.Forall2

namespace Admission

/-- A configuration of which a router can be built: its numbers are positive, its names are
distinct, not blank and not the default group's, its expressions and patterns can be read, and a
rule that names the same group for all requests names one that is there. -/
structure Config.WellFormed (c : Config) : Prop where
  default_quota : c.default.quota ≠ 0
  default_interval : c.default.interval.nanos ≠ 0
  quota : ∀ g ∈ c.groups, g.params.quota ≠ 0
  interval : ∀ g ∈ c.groups, g.params.interval.nanos ≠ 0
  not_blank : ∀ g ∈ c.groups, Text.trimmed g.name ≠ ""
  not_default : ∀ g ∈ c.groups, g.name ≠ "default"
  names_nodup : (c.groups.map (·.name)).Nodup
  default_event : ∃ e, Template.compile c.default.eventExpression = .ok e
  event : ∀ g ∈ c.groups, ∃ e, Template.compile g.params.eventExpression = .ok e
  pattern : ∀ rule ∈ c.rules, ∃ p, Pattern.read rule.apiPattern = .ok p
  expression : ∀ rule ∈ c.rules, ∃ e, Template.compile rule.groupExpression = .ok e
  constant : ∀ rule ∈ c.rules, ∀ e text, Template.compile rule.groupExpression = .ok e →
    e.constant = some text → Text.trimmed text = "" ∨ Text.trimmed text = "default" ∨
      Text.trimmed text ∈ c.groups.map (·.name)

/-- The check is passed exactly by what is well formed as far as numbers and names go. -/
lemma Config.WellFormed.validate {c : Config} (h : c.WellFormed) : c.validate = .ok () :=
  Config.validate_eq_ok_iff.2 ⟨⟨h.default_quota, h.default_interval⟩, h.names_nodup, fun g hg =>
    ⟨h.not_blank g hg, h.not_default g hg, h.quota g hg, h.interval g hg⟩⟩

namespace Router

variable {L : Type} {r t : Router L} {limiter : Option String → Config.Params → L} {c : Config}

/-- The group is the one that a configuration describes. -/
structure Group.Follows (limiter : Option String → Config.Params → L) (made : Group L)
    (g : Config.Group) : Prop where
  name_eq : made.name = g.name
  limiter_eq : made.limiter = limiter (some g.name) g.params
  compiled : Template.compile g.params.eventExpression = .ok made.eventExpression

/-- The rule is the one that a configuration describes. -/
structure Rule.Follows (made : Rule) (rule : Config.Rule) : Prop where
  read : Pattern.read rule.apiPattern = .ok made.pattern
  compiled : Template.compile rule.groupExpression = .ok made.groupExpression

/-- A list whose members can all be followed is followed by a list. -/
lemma exists_forall₂ {α β : Type} {R : α → β → Prop} {ys : List β} (h : ∀ y ∈ ys, ∃ x, R x y) :
    ∃ xs, List.Forall₂ R xs ys := by
  induction ys with
  | nil => exact ⟨[], .nil⟩
  | cons y ys ih =>
    obtain ⟨hfirst, hrest⟩ := List.forall_mem_cons.1 h
    obtain ⟨x, hx⟩ := hfirst
    obtain ⟨xs, hxs⟩ := ih hrest
    exact ⟨x :: xs, .cons hx hxs⟩

/-- Each member of a list that is followed is followed by a member of the other one. -/
lemma exists_mem_of_forall₂ {α β : Type} {R : α → β → Prop} {xs : List α} {ys : List β}
    (h : List.Forall₂ R xs ys) : ∀ y ∈ ys, ∃ x ∈ xs, R x y := by
  induction h with
  | nil => simp
  | cons hfirst _ ih =>
    rw [List.forall_mem_cons]
    refine ⟨⟨_, List.mem_cons_self, hfirst⟩, fun y hy => ?_⟩
    obtain ⟨x, hx, hrest⟩ := ih y hy
    exact ⟨x, List.mem_cons_of_mem _ hx, hrest⟩

/-- What the members of two lists have in common the lists have in common. -/
lemma map_eq_of_forall₂ {α β γ : Type} {R : α → β → Prop} {f : α → γ} {k : β → γ} {xs : List α}
    {ys : List β} (h : List.Forall₂ R xs ys) (hsame : ∀ x y, R x y → f x = k y) :
    xs.map f = ys.map k := by
  induction h with
  | nil => rfl
  | cons hfirst _ ih => rw [List.map_cons, List.map_cons, hsame _ _ hfirst, ih]

lemma names_eq_of_follows {made : List (Group L)} {groups : List Config.Group}
    (h : List.Forall₂ (Group.Follows limiter) made groups) :
    made.map (·.name) = groups.map (·.name) :=
  map_eq_of_forall₂ h fun _ _ hfollows => hfollows.name_eq

/-! ## Registering the groups -/

/-- The router with further groups behind its own. -/
def withGroups (r : Router L) (made : List (Group L)) : Router L :=
  { r with groups := r.groups ++ made }

lemma groupNames_withGroups (r : Router L) (made : List (Group L)) :
    (r.withGroups made).groupNames = r.groupNames ++ made.map (·.name) :=
  List.map_append

lemma withGroups_withGroups (r : Router L) (first made : List (Group L)) :
    (r.withGroups first).withGroups made = r.withGroups (first ++ made) := by
  simp [withGroups]

/-- Groups whose names can be registered one after the other. -/
def Free (r : Router L) (groups : List Config.Group) : Prop :=
  (groups.map (·.name)).Nodup ∧ ∀ g ∈ groups, isDefault g.name = false ∧ g.name ∉ r.groupNames

/-- Once the first name has been registered the rest must be free of it too. -/
lemma free_cons_iff {g : Config.Group} {groups : List Config.Group} {m : Group L}
    (hm : m.name = g.name) :
    r.Free (g :: groups) ↔
      (isDefault g.name = false ∧ g.name ∉ r.groupNames) ∧ (r.withGroups [m]).Free groups := by
  rw [Free, Free, List.map_cons, List.nodup_cons, List.forall_mem_cons, groupNames_withGroups,
    List.map_cons, List.map_nil, hm]
  constructor
  · rintro ⟨⟨hfresh, hnodup⟩, hfirst, hfree⟩
    refine ⟨hfirst, hnodup, fun other hother => ⟨(hfree other hother).1, fun hmem => ?_⟩⟩
    rcases List.mem_append.1 hmem with hold | hsame
    · exact (hfree other hother).2 hold
    · exact hfresh (List.mem_singleton.1 hsame ▸ List.mem_map_of_mem hother)
  · rintro ⟨hfirst, hnodup, hfree⟩
    have hnames : ∀ other ∈ groups, other.name ∉ r.groupNames ∧ other.name ≠ g.name := by
      intro other hother
      have hfree := (hfree other hother).2
      simpa [not_or] using hfree
    refine ⟨⟨fun hmem => ?_, hnodup⟩, hfirst, fun other hother =>
      ⟨(hfree other hother).1, (hnames other hother).1⟩⟩
    obtain ⟨other, hother, hsame⟩ := List.mem_map.1 hmem
    exact (hnames other hother).2 hsame

/-- The names that the check lets through can be registered with a router that has no groups. -/
lemma free_of_proper {groups : List Config.Group} (hr : r.groups = [])
    (hnodup : (groups.map (·.name)).Nodup) (hproper : ∀ g ∈ groups, g.Proper) : r.Free groups := by
  refine ⟨hnodup, fun g hg => ⟨isDefault_eq_false_iff.2 ⟨?_, (hproper g hg).not_default⟩, ?_⟩⟩
  · intro hempty
    exact (hproper g hg).not_blank (by rw [hempty]; rfl)
  · simp [groupNames, hr]

lemma addGroups_cons_eq_ok_iff {g : Config.Group} {groups : List Config.Group} :
    r.addGroups limiter (g :: groups) = .ok t ↔ ∃ s,
      r.addGroup (limiter (some g.name) g.params) g.name g.params.eventExpression = .ok s ∧
        s.addGroups limiter groups = .ok t := by
  rw [addGroups, List.foldlM_cons, bind_eq_ok_iff]
  rfl

/-- A group of a configuration is registered exactly if its name is free and its event expression
compiles. -/
lemma addGroup_follows_iff {g : Config.Group} :
    r.addGroup (limiter (some g.name) g.params) g.name g.params.eventExpression = .ok t ↔
      (isDefault g.name = false ∧ g.name ∉ r.groupNames) ∧
        ∃ m, Group.Follows limiter m g ∧ t = r.withGroups [m] := by
  rw [addGroup_eq_ok_iff, and_assoc]
  refine and_congr_right fun _ => and_congr_right fun _ => ?_
  constructor
  · rintro ⟨e, he, rfl⟩
    exact ⟨⟨g.name, _, e⟩, ⟨rfl, rfl, compile_eq_ok_iff.1 he⟩, rfl⟩
  · rintro ⟨⟨name, l, e⟩, ⟨hname, hlimiter, he⟩, rfl⟩
    dsimp only at hname hlimiter he
    subst hname hlimiter
    exact ⟨e, compile_eq_ok_iff.2 he, rfl⟩

/-- All groups of a list are registered exactly if their names are free and their event expressions
compile; each is put behind the ones before it. -/
lemma addGroups_eq_ok_iff {groups : List Config.Group} :
    r.addGroups limiter groups = .ok t ↔
      r.Free groups ∧
        ∃ made, List.Forall₂ (Group.Follows limiter) made groups ∧ t = r.withGroups made := by
  induction groups generalizing r with
  | nil =>
    have hfree : r.Free [] := ⟨List.nodup_nil, by simp⟩
    simp only [List.forall₂_nil_right_iff, exists_eq_left, withGroups, List.append_nil, hfree,
      true_and]
    exact ⟨fun h => (Except.ok.inj h).symm, fun h => h ▸ rfl⟩
  | cons g groups ih =>
    rw [addGroups_cons_eq_ok_iff]
    constructor
    · rintro ⟨s, hfirst, hrest⟩
      obtain ⟨hname, m, hm, rfl⟩ := addGroup_follows_iff.1 hfirst
      obtain ⟨hfree, made, hmade, rfl⟩ := ih.1 hrest
      exact ⟨(free_cons_iff hm.name_eq).2 ⟨hname, hfree⟩, m :: made, .cons hm hmade,
        withGroups_withGroups r [m] made⟩
    · rintro ⟨hfree, made, hmade, rfl⟩
      obtain ⟨m, rest, hm, hrest, rfl⟩ := List.forall₂_cons_right_iff.1 hmade
      obtain ⟨hname, hfree⟩ := (free_cons_iff hm.name_eq).1 hfree
      exact ⟨r.withGroups [m], addGroup_follows_iff.2 ⟨hname, m, hm, rfl⟩,
        ih.2 ⟨hfree, rest, hrest, (withGroups_withGroups r [m] rest).symm⟩⟩

lemma template_of_compile_error {expression : String} {e : Error}
    (h : compile expression = .error e) : ∃ fault, e = .template fault := by
  obtain ⟨fault, -, hfault⟩ := mapError_eq_error_iff.1 h
  exact ⟨fault, hfault.symm⟩

/-- Groups whose names are free are refused for nothing but an event expression. -/
lemma template_of_addGroups_error {groups : List Config.Group} {e : Error}
    (hfree : r.Free groups) (h : r.addGroups limiter groups = .error e) :
    ∃ fault, e = .template fault := by
  induction groups generalizing r with
  | nil => exact absurd h (by simp [addGroups, pure, Except.pure])
  | cons g groups ih =>
    rw [addGroups, List.foldlM_cons, bind_eq_error_iff] at h
    rcases h with hfirst | ⟨s, hfirst, hrest⟩
    · have hname := hfree.2 g List.mem_cons_self
      rw [addGroup, knows_eq_false_iff.2 hname] at hfirst
      exact template_of_compile_error (map_eq_error_iff.1 hfirst)
    · obtain ⟨-, m, hm, rfl⟩ := addGroup_follows_iff.1 hfirst
      exact ih ((free_cons_iff hm.name_eq).1 hfree).2 hrest

/-! ## Adding the rules -/

/-- The router with further rules behind its own. -/
def withRules (r : Router L) (made : List Rule) : Router L :=
  { r with rules := r.rules ++ made }

lemma withRules_withRules (r : Router L) (first made : List Rule) :
    (r.withRules first).withRules made = r.withRules (first ++ made) := by
  simp [withRules]

/-- If a rule names the same group for all requests, this group is there. -/
def Allows (r : Router L) (rule : Rule) : Prop :=
  ∀ text, rule.groupExpression.constant = some text → r.knows (Text.trimmed text) = true

lemma addRules_cons_eq_ok_iff {rule : Config.Rule} {rules : List Config.Rule} :
    r.addRules (rule :: rules) = .ok t ↔ ∃ s,
      r.addRule rule.apiPattern rule.groupExpression = .ok s ∧ s.addRules rules = .ok t := by
  rw [addRules, List.foldlM_cons, bind_eq_ok_iff]
  rfl

lemma addRule_follows_iff {rule : Config.Rule} :
    r.addRule rule.apiPattern rule.groupExpression = .ok t ↔
      ∃ m, Rule.Follows m rule ∧ r.Allows m ∧ t = r.withRules [m] := by
  rw [addRule_eq_ok_iff]
  constructor
  · rintro ⟨p, e, hp, he, hconstant, rfl⟩
    exact ⟨⟨p, e⟩, ⟨hp, compile_eq_ok_iff.1 he⟩, hconstant, rfl⟩
  · rintro ⟨⟨p, e⟩, ⟨hp, he⟩, hconstant, rfl⟩
    exact ⟨p, e, hp, compile_eq_ok_iff.2 he, hconstant, rfl⟩

/-- All rules of a list are added exactly if they can be read and name no unknown group; each is put
behind the ones before it. -/
lemma addRules_eq_ok_iff {rules : List Config.Rule} :
    r.addRules rules = .ok t ↔
      ∃ made, List.Forall₂ Rule.Follows made rules ∧ (∀ m ∈ made, r.Allows m) ∧
        t = r.withRules made := by
  induction rules generalizing r with
  | nil =>
    simp only [List.forall₂_nil_right_iff, exists_eq_left, withRules, List.append_nil,
      List.not_mem_nil, false_implies, implies_true, true_and]
    exact ⟨fun h => (Except.ok.inj h).symm, fun h => h ▸ rfl⟩
  | cons rule rules ih =>
    rw [addRules_cons_eq_ok_iff]
    -- a rule that has been added changes nothing about which groups are there
    constructor
    · rintro ⟨s, hfirst, hrest⟩
      obtain ⟨m, hm, hallows, rfl⟩ := addRule_follows_iff.1 hfirst
      obtain ⟨made, hmade, hothers, rfl⟩ := ih.1 hrest
      exact ⟨m :: made, .cons hm hmade, List.forall_mem_cons.2 ⟨hallows, hothers⟩,
        withRules_withRules r [m] made⟩
    · rintro ⟨made, hmade, hallows, rfl⟩
      obtain ⟨m, rest, hm, hrest, rfl⟩ := List.forall₂_cons_right_iff.1 hmade
      obtain ⟨hfirst, hallows⟩ := List.forall_mem_cons.1 hallows
      exact ⟨r.withRules [m], addRule_follows_iff.2 ⟨m, hm, hfirst, rfl⟩,
        ih.2 ⟨rest, hrest, hallows, (withRules_withRules r [m] rest).symm⟩⟩

/-- A rule is not refused for the name of a group being taken. -/
lemma addRule_ne_duplicateGroup {apiPattern expression name : String} :
    r.addRule apiPattern expression ≠ .error (.duplicateGroup name) := by
  intro h
  rw [addRule] at h
  split at h
  · rename_i e he
    obtain ⟨fault, -, hfault⟩ := mapError_eq_error_iff.1 he
    cases hfault
    exact absurd h (by simp)
  · split at h
    · rename_i e he
      obtain ⟨fault, rfl⟩ := template_of_compile_error he
      exact absurd h (by simp)
    · dsimp only at h
      split at h
      · exact absurd h (by simp)
      · split at h <;> exact absurd h (by simp)

lemma addRules_ne_duplicateGroup {rules : List Config.Rule} {name : String} :
    r.addRules rules ≠ .error (.duplicateGroup name) := by
  induction rules generalizing r with
  | nil => simp [addRules, pure, Except.pure]
  | cons rule rules ih =>
    rw [addRules, List.foldlM_cons, Ne, bind_eq_error_iff]
    rintro (hfirst | ⟨s, -, hrest⟩)
    · exact addRule_ne_duplicateGroup hfirst
    · exact ih hrest

/-! ## Configurations -/

/-- A configuration becomes a router exactly if it passes its check, its event expressions compile,
its rules can be read, and those that name the same group for all requests name one that is there.
The router has the groups and the rules that the configuration describes. -/
lemma ofConfig_eq_ok_iff :
    ofConfig limiter c = .ok r ↔
      c.validate = .ok () ∧ ∃ e groups rules,
        Template.compile c.default.eventExpression = .ok e ∧
        List.Forall₂ (Group.Follows limiter) groups c.groups ∧
        List.Forall₂ Rule.Follows rules c.rules ∧ (∀ m ∈ rules, r.Allows m) ∧
        r = ⟨⟨Config.defaultName, limiter none c.default, e⟩, groups, rules, ⟨0, 0⟩⟩ := by
  simp only [ofConfig, bind_eq_ok_iff]
  constructor
  · rintro ⟨⟨⟩, hvalid, start, hstart, grouped, hgrouped, hruled⟩
    obtain ⟨e, he, rfl⟩ := map_eq_ok_iff.1 hstart
    obtain ⟨-, groups, hgroups, rfl⟩ := addGroups_eq_ok_iff.1 hgrouped
    obtain ⟨rules, hrules, hallows, rfl⟩ := addRules_eq_ok_iff.1 hruled
    exact ⟨hvalid, e, groups, rules, compile_eq_ok_iff.1 he, hgroups, hrules, hallows, rfl⟩
  · rintro ⟨hvalid, e, groups, rules, he, hgroups, hrules, hallows, rfl⟩
    obtain ⟨-, hnodup, hproper⟩ := Config.validate_eq_ok_iff.1 hvalid
    let start : Router L := ⟨⟨Config.defaultName, limiter none c.default, e⟩, [], [], ⟨0, 0⟩⟩
    have hmake : make (limiter none c.default) c.default.eventExpression = .ok start :=
      map_eq_ok_iff.2 ⟨e, compile_eq_ok_iff.2 he, rfl⟩
    -- the check leaves no name that the first registration could object to
    have hfree : start.Free c.groups := free_of_proper rfl hnodup hproper
    exact ⟨(), hvalid, start, hmake, start.withGroups groups,
      addGroups_eq_ok_iff.2 ⟨hfree, groups, hgroups, rfl⟩,
      addRules_eq_ok_iff.2 ⟨rules, hrules, hallows, rfl⟩⟩

/-- What the router of a configuration allows its rules, in terms of the configuration. -/
lemma allows_iff_of_follows {m : Rule} (hnames : r.groupNames = c.groups.map (·.name)) :
    r.Allows m ↔ ∀ text, m.groupExpression.constant = some text →
      Text.trimmed text = "" ∨ Text.trimmed text = "default" ∨
        Text.trimmed text ∈ c.groups.map (·.name) := by
  simp only [Allows, knows_iff, isDefault_iff, hnames, or_assoc]

lemma wellFormed_of_ofConfig (h : ofConfig limiter c = .ok r) : c.WellFormed := by
  obtain ⟨hvalid, e, groups, rules, he, hgroups, hrules, hallows, rfl⟩ := ofConfig_eq_ok_iff.1 h
  obtain ⟨hdefault, hnodup, hproper⟩ := Config.validate_eq_ok_iff.1 hvalid
  have hgroup := exists_mem_of_forall₂ hgroups
  have hrule := exists_mem_of_forall₂ hrules
  refine
    { default_quota := hdefault.quota_ne
      default_interval := hdefault.interval_ne
      quota := fun g hg => (hproper g hg).positive.quota_ne
      interval := fun g hg => (hproper g hg).positive.interval_ne
      not_blank := fun g hg => (hproper g hg).not_blank
      not_default := fun g hg => (hproper g hg).not_default
      names_nodup := hnodup
      default_event := ⟨e, he⟩
      event := fun g hg => ?_
      pattern := fun rule hmem => ?_
      expression := fun rule hmem => ?_
      constant := fun rule hmem e' text he' htext => ?_ }
  · obtain ⟨m, -, hm⟩ := hgroup g hg
    exact ⟨m.eventExpression, hm.compiled⟩
  · obtain ⟨m, -, hm⟩ := hrule rule hmem
    exact ⟨m.pattern, hm.read⟩
  · obtain ⟨m, -, hm⟩ := hrule rule hmem
    exact ⟨m.groupExpression, hm.compiled⟩
  · obtain ⟨m, hmade, hm⟩ := hrule rule hmem
    have hsame : m.groupExpression = e' := Except.ok.inj (hm.compiled.symm.trans he')
    exact (allows_iff_of_follows (names_eq_of_follows hgroups)).1 (hallows m hmade) text
      (hsame ▸ htext)

lemma exists_ofConfig_of_wellFormed (h : c.WellFormed) : ∃ r, ofConfig limiter c = .ok r := by
  obtain ⟨e, he⟩ := h.default_event
  have hgroup : ∀ g ∈ c.groups, ∃ m, Group.Follows limiter m g := by
    intro g hg
    obtain ⟨e, he⟩ := h.event g hg
    exact ⟨⟨g.name, limiter (some g.name) g.params, e⟩, rfl, rfl, he⟩
  have hrule : ∀ rule ∈ c.rules, ∃ m, Rule.Follows m rule := by
    intro rule hmem
    obtain ⟨p, hp⟩ := h.pattern rule hmem
    obtain ⟨e, he⟩ := h.expression rule hmem
    exact ⟨⟨p, e⟩, hp, he⟩
  obtain ⟨groups, hgroups⟩ := exists_forall₂ hgroup
  obtain ⟨rules, hrules⟩ := exists_forall₂ hrule
  refine ⟨_, ofConfig_eq_ok_iff.2 ⟨h.validate, e, groups, rules, he, hgroups, hrules, ?_, rfl⟩⟩
  intro m hm
  obtain ⟨rule, hmem, hfollows⟩ := exists_mem_of_forall₂ hrules.flip m hm
  refine (allows_iff_of_follows (names_eq_of_follows hgroups)).2 fun text htext => ?_
  exact h.constant rule hmem m.groupExpression text hfollows.compiled htext

/-- A configuration that passes its check has no name that is taken when its turn comes. -/
lemma ofConfig_ne_duplicateGroup (hvalid : c.validate = .ok ()) (name : String) :
    ofConfig limiter c ≠ .error (.duplicateGroup name) := by
  obtain ⟨-, hnodup, hproper⟩ := Config.validate_eq_ok_iff.1 hvalid
  simp only [ofConfig, Ne, bind_eq_error_iff, hvalid]
  rintro (hcheck | ⟨_, -, hmake | ⟨start, hstart, hgroups | ⟨grouped, -, hrules⟩⟩⟩)
  · exact absurd hcheck (by simp)
  · obtain ⟨fault, hfault⟩ := template_of_compile_error (map_eq_error_iff.1 hmake)
    exact absurd hfault (by simp)
  · obtain ⟨e, -, rfl⟩ := map_eq_ok_iff.1 hstart
    obtain ⟨fault, hfault⟩ :=
      template_of_addGroups_error (free_of_proper rfl hnodup hproper) hgroups
    exact absurd hfault (by simp)
  · exact addRules_ne_duplicateGroup hrules

/-- **A router is built of exactly the well-formed configurations**, whatever makes its limiters.
It has the groups of the configuration, under their names, and its rules, all in order.  Once the
check has passed, no group is refused because its name is taken. -/
theorem ofConfig_ok_iff_wellFormed (limiter : Option String → Config.Params → L) (c : Config) :
    ((∃ r, ofConfig limiter c = .ok r) ↔ c.WellFormed) ∧
      (∀ r, ofConfig limiter c = .ok r →
        r.groupNames = c.groups.map (·.name) ∧
        List.Forall₂ (Group.Follows limiter) r.groups c.groups ∧
        List.Forall₂ Rule.Follows r.rules c.rules) ∧
      (c.validate = .ok () → ∀ name, ofConfig limiter c ≠ .error (.duplicateGroup name)) := by
  refine ⟨⟨fun ⟨r, hr⟩ => wellFormed_of_ofConfig hr, exists_ofConfig_of_wellFormed⟩,
    fun r hr => ?_, ofConfig_ne_duplicateGroup⟩
  obtain ⟨-, e, groups, rules, -, hgroups, hrules, -, rfl⟩ := ofConfig_eq_ok_iff.1 hr
  exact ⟨names_eq_of_follows hgroups, hgroups, hrules⟩

end Router

end Admission
