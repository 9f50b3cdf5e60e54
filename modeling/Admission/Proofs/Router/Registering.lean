/-
# Setting up a router step by step

A router starts with its default group.  Groups are registered and rules are added one by one, and
a call that fails leaves the router as it was.  Whatever is called, the router stays well formed:
the names of its groups are distinct from one another and from the default group's, its event
expressions have been compiled, and a rule that names the same group for all requests names one
that is there (`WellFormed`).  Names are never taken away, so this stays true of the rules that are
there when more is registered.
-/
import Admission.Router
import Admission.Proofs.Outcomes

namespace Admission.Router

variable {L : Type} {r t : Router L}

/-! ## One registration -/

lemma group?_eq_none_iff {name : String} : r.group? name = none ↔ name ∉ r.groupNames := by
  simp [group?, groupNames, List.find?_eq_none]

lemma isDefault_iff {name : String} : isDefault name = true ↔ name = "" ∨ name = "default" := by
  rw [isDefault, Bool.or_eq_true, beq_iff_eq, beq_iff_eq]
  rfl

lemma isDefault_eq_false_iff {name : String} :
    isDefault name = false ↔ name ≠ "" ∧ name ≠ Config.defaultName := by
  rw [isDefault, Bool.or_eq_false_iff, beq_eq_false_iff_ne, beq_eq_false_iff_ne]

lemma knows_eq_false_iff {name : String} :
    r.knows name = false ↔ isDefault name = false ∧ name ∉ r.groupNames := by
  rw [knows, Bool.or_eq_false_iff, Option.isSome_eq_false_iff, Option.isNone_iff_eq_none,
    group?_eq_none_iff]

lemma knows_iff {name : String} :
    r.knows name = true ↔ isDefault name = true ∨ name ∈ r.groupNames := by
  rw [← Bool.not_eq_false, knows_eq_false_iff, not_and_or, Bool.not_eq_false, not_not]

/-- A group is registered exactly if its name is free and its event expression compiles. -/
lemma addGroup_eq_ok_iff {limiter : L} {name expression : String} :
    r.addGroup limiter name expression = .ok t ↔
      isDefault name = false ∧ name ∉ r.groupNames ∧
        ∃ e, compile expression = .ok e ∧
          t = { r with groups := r.groups ++ [⟨name, limiter, e⟩] } := by
  rw [addGroup]
  split
  · rename_i hknown
    refine ⟨fun h => absurd h (by simp), fun h => ?_⟩
    rw [knows_eq_false_iff.2 ⟨h.1, h.2.1⟩] at hknown
    exact absurd hknown (by simp)
  · rename_i hfree
    obtain ⟨hdefault, hname⟩ := knows_eq_false_iff.1 (by simpa using hfree)
    rw [map_eq_ok_iff]
    exact ⟨fun ⟨e, he, ht⟩ => ⟨hdefault, hname, e, he, ht.symm⟩,
      fun ⟨_, _, e, he, ht⟩ => ⟨e, he, ht.symm⟩⟩

/-- A rule is added behind the others exactly if its pattern can be read, its group expression
compiles and, in case this is the same text for all requests, there is a group of this name. -/
lemma addRule_eq_ok_iff {apiPattern expression : String} :
    r.addRule apiPattern expression = .ok t ↔
      ∃ p e, Pattern.read apiPattern = .ok p ∧ compile expression = .ok e ∧
        (∀ text, e.constant = some text → r.knows (Text.trimmed text) = true) ∧
        t = { r with rules := r.rules ++ [⟨p, e⟩] } := by
  rw [addRule]
  constructor
  · intro h
    split at h
    · exact absurd h (by simp)
    · rename_i p hp
      split at h
      · exact absurd h (by simp)
      · rename_i e he
        refine ⟨p, e, mapError_eq_ok_iff.1 hp, he, ?_⟩
        dsimp only at h
        split at h
        · rename_i hnone
          exact ⟨fun text htext => by simp [hnone] at htext, (Except.ok.inj h).symm⟩
        · rename_i text htext
          split at h
          · rename_i hknown
            refine ⟨fun other hother => ?_, (Except.ok.inj h).symm⟩
            rwa [← Option.some.inj (htext.symm.trans hother)]
          · exact absurd h (by simp)
  · rintro ⟨p, e, hp, he, hconstant, rfl⟩
    rw [hp, he]
    dsimp only [Except.mapError]
    split
    · rfl
    · rename_i text htext
      rw [if_pos (hconstant text htext)]

lemma compile_eq_ok_iff {source : String} {e : Template} :
    compile source = .ok e ↔ Template.compile source = .ok e :=
  mapError_eq_ok_iff

/-! ## Calls -/

/-- A call that sets up a router. -/
inductive Registration (L : Type) where
  /-- Registers a named group. -/
  | group (limiter : L) (name eventExpression : String)
  /-- Adds a match rule. -/
  | rule (apiPattern groupExpression : String)

/-- A call as it goes, on a router that it changes in place: what has been changed by the time of
a fault stays changed. -/
def Registration.perform : Registration L → ExceptT Error (StateM (Router L)) Unit
  | .group limiter name eventExpression => do
    let r ← get
    if r.knows name then throw (.duplicateGroup name)
    let expression ← liftExcept (compile eventExpression)
    modify fun r => { r with groups := r.groups ++ [⟨name, limiter, expression⟩] }
  | .rule apiPattern groupExpression => do
    let pattern ← liftExcept ((Pattern.read apiPattern).mapError Error.pattern)
    let expression ← liftExcept (compile groupExpression)
    if let some text := expression.constant then
      let r ← get
      if !r.knows (Text.trimmed text) then throw (.unknownGroup (Text.trimmed text))
    modify fun r => { r with rules := r.rules ++ [⟨pattern, expression⟩] }

/-- The router after a call, and what the call answers. -/
def register (r : Router L) (call : Registration L) : Router L × Except Error Unit :=
  (call.perform.run.run r).swap

/-- The router that a call makes. -/
def attempt (r : Router L) : Registration L → Except Error (Router L)
  | .group limiter name eventExpression => r.addGroup limiter name eventExpression
  | .rule apiPattern groupExpression => r.addRule apiPattern groupExpression

lemma run_get_bind (r : Router L) (f : Router L → ExceptT Error (StateM (Router L)) Unit) :
    (get >>= f).run.run r = (f r).run.run r := rfl

/-- Nothing is changed before the last check has passed, so a call makes the router that it is to
make or leaves the one that is there. -/
lemma register_eq (r : Router L) (call : Registration L) :
    r.register call =
      match r.attempt call with
      | .ok t => (t, .ok ())
      | .error e => (r, .error e) := by
  cases call with
  | group limiter name eventExpression =>
    rw [register, Registration.perform, run_get_bind, attempt, addGroup]
    cases r.knows name with
    | true => rfl
    | false => cases compile eventExpression <;> rfl
  | rule apiPattern groupExpression =>
    rw [register, Registration.perform, attempt, addRule]
    cases (Pattern.read apiPattern).mapError Error.pattern with
    | error e => rfl
    | ok p =>
      cases compile groupExpression with
      | error e => rfl
      | ok e =>
        simp only [liftExcept, pure_bind]
        cases e.constant with
        | none => rfl
        | some text =>
          dsimp only
          -- the rule is not there yet when its name is looked up
          rw [run_get_bind]
          cases r.knows (Text.trimmed text) <;> rfl

/-- The router after calls, some of which may fail. -/
def registered (r : Router L) (calls : List (Registration L)) : Router L :=
  calls.foldl (fun r call => (r.register call).1) r

/-- The calls that succeed: a group's name is free and its event expression compiles; a rule's
pattern can be read, its group expression compiles and does not name the same unknown group for all
requests. -/
def Accepts (r : Router L) : Registration L → Prop
  | .group _ name eventExpression =>
    (name ≠ "" ∧ name ≠ "default" ∧ name ∉ r.groupNames) ∧
      ∃ e, Template.compile eventExpression = .ok e
  | .rule apiPattern groupExpression =>
    ∃ p e, Pattern.read apiPattern = .ok p ∧ Template.compile groupExpression = .ok e ∧
      ∀ text, e.constant = some text →
        Text.trimmed text = "" ∨ Text.trimmed text = "default" ∨ Text.trimmed text ∈ r.groupNames

/-- What a call adds if it succeeds: the group or the rule that it describes, behind the others. -/
def Adds (r t : Router L) : Registration L → Prop
  | .group limiter name eventExpression =>
    ∃ e, Template.compile eventExpression = .ok e ∧
      t = { r with groups := r.groups ++ [⟨name, limiter, e⟩] }
  | .rule apiPattern groupExpression =>
    ∃ p e, Pattern.read apiPattern = .ok p ∧ Template.compile groupExpression = .ok e ∧
      t = { r with rules := r.rules ++ [⟨p, e⟩] }

lemma accepts_iff {call : Registration L} : r.Accepts call ↔ ∃ t, r.attempt call = .ok t := by
  cases call with
  | group limiter name eventExpression =>
    simp only [attempt, addGroup_eq_ok_iff, isDefault_eq_false_iff, compile_eq_ok_iff]
    constructor
    · rintro ⟨⟨hempty, hdefault, hname⟩, e, he⟩
      exact ⟨_, ⟨hempty, hdefault⟩, hname, e, he, rfl⟩
    · rintro ⟨_, ⟨hempty, hdefault⟩, hname, e, he, -⟩
      exact ⟨⟨hempty, hdefault, hname⟩, e, he⟩
  | rule apiPattern groupExpression =>
    simp only [attempt, addRule_eq_ok_iff, knows_iff, isDefault_iff, or_assoc, compile_eq_ok_iff]
    constructor
    · rintro ⟨p, e, hp, he, hconstant⟩
      exact ⟨_, p, e, hp, he, hconstant, rfl⟩
    · rintro ⟨_, p, e, hp, he, hconstant, -⟩
      exact ⟨p, e, hp, he, hconstant⟩

lemma adds_of_attempt {call : Registration L} (h : r.attempt call = .ok t) : r.Adds t call := by
  cases call with
  | group limiter name eventExpression =>
    rw [attempt] at h
    obtain ⟨-, -, e, he, ht⟩ := addGroup_eq_ok_iff.1 h
    exact ⟨e, compile_eq_ok_iff.1 he, ht⟩
  | rule apiPattern groupExpression =>
    rw [attempt] at h
    obtain ⟨p, e, hp, he, -, ht⟩ := addRule_eq_ok_iff.1 h
    exact ⟨p, e, hp, compile_eq_ok_iff.1 he, ht⟩

/-- A call leaves the router as it was, or the router that it makes. -/
lemma register_cases (r : Router L) (call : Registration L) :
    (∃ e, r.attempt call = .error e ∧ r.register call = (r, .error e)) ∨
      ∃ t, r.attempt call = .ok t ∧ r.register call = (t, .ok ()) := by
  rw [register_eq]
  cases h : r.attempt call with
  | error e => exact .inl ⟨e, rfl, rfl⟩
  | ok t => exact .inr ⟨t, rfl, rfl⟩

lemma Adds.default_eq {call : Registration L} (h : r.Adds t call) :
    t.default = r.default ∧ t.stats = r.stats := by
  cases call with
  | group limiter name eventExpression =>
    obtain ⟨e, -, rfl⟩ := h
    exact ⟨rfl, rfl⟩
  | rule apiPattern groupExpression =>
    obtain ⟨p, e, -, -, rfl⟩ := h
    exact ⟨rfl, rfl⟩

lemma Adds.keeps_rules {call : Registration L} (h : r.Adds t call) : r.rules <+: t.rules := by
  cases call with
  | group limiter name eventExpression =>
    obtain ⟨e, -, rfl⟩ := h
    exact List.prefix_rfl
  | rule apiPattern groupExpression =>
    obtain ⟨p, e, -, -, rfl⟩ := h
    exact List.prefix_append _ _

/-! ## What calls keep -/

/-- A property of routers that no successful call breaks holds after any calls. -/
lemma registered_keeps {P : Router L → Prop} {calls : List (Registration L)}
    (hstep : ∀ (s s' : Router L) call, s.attempt call = .ok s' → P s → P s') (hr : P r) :
    P (r.registered calls) := by
  induction calls generalizing r with
  | nil => exact hr
  | cons call calls ih =>
    refine ih (r := (r.register call).1) ?_
    rcases register_cases r call with ⟨e, -, hregister⟩ | ⟨t, hok, hregister⟩
    · rw [hregister]
      exact hr
    · rw [hregister]
      exact hstep r t call hok hr

/-- Calls keep the default group and what has been counted. -/
lemma default_registered (r : Router L) (calls : List (Registration L)) :
    (r.registered calls).default = r.default ∧ (r.registered calls).stats = r.stats := by
  refine registered_keeps (P := fun t => t.default = r.default ∧ t.stats = r.stats) ?_ ⟨rfl, rfl⟩
  rintro s s' call hok ⟨hdefault, hstats⟩
  have hadds := (adds_of_attempt hok).default_eq
  exact ⟨hadds.1.trans hdefault, hadds.2.trans hstats⟩

/-- Later calls put their rules behind the rules of earlier ones. -/
lemma rules_prefix_registered (r : Router L) {earlier calls : List (Registration L)}
    (h : earlier <+: calls) : (r.registered earlier).rules <+: (r.registered calls).rules := by
  obtain ⟨later, rfl⟩ := h
  have hsplit : r.registered (earlier ++ later) = (r.registered earlier).registered later :=
    List.foldl_append
  rw [hsplit]
  refine registered_keeps (P := fun t => (r.registered earlier).rules <+: t.rules) ?_
    List.prefix_rfl
  exact fun s s' call hok hs => hs.trans (adds_of_attempt hok).keeps_rules

/-! ## Well-formed routers -/

/-- What holds of every router that has been set up. -/
structure WellFormed (r : Router L) : Prop where
  default_name : r.default.name = Config.defaultName
  names_nodup : r.groupNames.Nodup
  not_default : ∀ g ∈ r.groups, isDefault g.name = false
  compiled : ∀ g, g = r.default ∨ g ∈ r.groups →
    ∃ source, Template.compile source = .ok g.eventExpression
  constants_known : ∀ rule ∈ r.rules, ∀ text, rule.groupExpression.constant = some text →
    r.knows (Text.trimmed text) = true

lemma wellFormed_make {limiter : L} {expression : String} (h : make limiter expression = .ok r) :
    WellFormed r := by
  obtain ⟨e, he, rfl⟩ := map_eq_ok_iff.1 h
  refine ⟨rfl, List.nodup_nil, by simp, ?_, by simp⟩
  rintro g (rfl | hg)
  · exact ⟨expression, compile_eq_ok_iff.1 he⟩
  · exact absurd hg (by simp)

lemma WellFormed.addGroup {limiter : L} {name expression : String} (hr : WellFormed r)
    (h : r.addGroup limiter name expression = .ok t) : WellFormed t := by
  obtain ⟨hdefault, hname, e, he, rfl⟩ := addGroup_eq_ok_iff.1 h
  have hnames : groupNames { r with groups := r.groups ++ [⟨name, limiter, e⟩] } =
      r.groupNames ++ [name] := List.map_append
  refine ⟨hr.default_name, ?_, ?_, ?_, ?_⟩
  · rw [hnames, List.nodup_append]
    refine ⟨hr.names_nodup, by simp, ?_⟩
    rintro old hold _ hnew rfl
    exact hname (List.mem_singleton.1 hnew ▸ hold)
  · intro g hg
    rcases List.mem_append.1 hg with hold | hnew
    · exact hr.not_default g hold
    · obtain rfl := List.mem_singleton.1 hnew
      exact hdefault
  · rintro g (hg | hg)
    · exact hr.compiled g (.inl hg)
    · rcases List.mem_append.1 hg with hold | hnew
      · exact hr.compiled g (.inr hold)
      · obtain rfl := List.mem_singleton.1 hnew
        exact ⟨expression, compile_eq_ok_iff.1 he⟩
  · -- names are never taken away, so what was known stays known
    intro rule hrule text htext
    rw [knows_iff, hnames, List.mem_append]
    rcases knows_iff.1 (hr.constants_known rule hrule text htext) with hd | hold
    · exact .inl hd
    · exact .inr (.inl hold)

lemma WellFormed.addRule {apiPattern expression : String} (hr : WellFormed r)
    (h : r.addRule apiPattern expression = .ok t) : WellFormed t := by
  obtain ⟨p, e, -, -, hconstant, rfl⟩ := addRule_eq_ok_iff.1 h
  refine ⟨hr.default_name, hr.names_nodup, hr.not_default, hr.compiled, ?_⟩
  intro rule hrule text htext
  rcases List.mem_append.1 hrule with hold | hnew
  · exact hr.constants_known rule hold text htext
  · obtain rfl := List.mem_singleton.1 hnew
    exact hconstant text htext

/-- Whatever is called, a router stays well formed. -/
lemma WellFormed.registered (hr : WellFormed r) (calls : List (Registration L)) :
    WellFormed (r.registered calls) := by
  refine registered_keeps (fun s s' call hok hs => ?_) hr
  cases call with
  | group limiter name eventExpression =>
    rw [attempt] at hok
    exact hs.addGroup hok
  | rule apiPattern groupExpression =>
    rw [attempt] at hok
    exact hs.addRule hok

/-- What a router has counted does not matter. -/
lemma WellFormed.withStats (hr : WellFormed r) (stats : Stats) : WellFormed { r with stats } :=
  ⟨hr.default_name, hr.names_nodup, hr.not_default, hr.compiled, hr.constants_known⟩

end Admission.Router
