/-
# Routers whatever their limiters

A router hands the tokens to its limiters and does the rest on its own: which group a request goes
to, which event it is there and what is counted do not depend on what the limiters are.  So a router
can be looked at without them (`bare`).  Building a router keeps to that (`map_ofConfig`), and so
does a run: all that becomes of the bare router is told by the requests (`bare_handleAll`).
-/
import Admission.Proofs.Router.Counting

namespace Admission.Router

variable {L M σ : Type}

/-! ## Other limiters in place of those of a router -/

/-- The group with the limiter that `f` gives for its own. -/
def Group.map (f : L → M) (g : Group L) : Group M :=
  ⟨g.name, f g.limiter, g.eventExpression⟩

/-- The router with the limiters that `f` gives for its own. -/
def map (f : L → M) (r : Router L) : Router M :=
  ⟨r.default.map f, r.groups.map (Group.map f), r.rules, r.stats⟩

/-- The router without its limiters. -/
def bare (r : Router L) : Router Unit :=
  r.map fun _ => ()

section map

variable (f : L → M) (r : Router L)

lemma group?_map (name : String) : (r.map f).group? name = (r.group? name).map (Group.map f) := by
  rw [group?, group?, map, List.find?_map]
  rfl

lemma knows_map (name : String) : (r.map f).knows name = r.knows name := by
  rw [knows, knows, group?_map, Option.isSome_map]

lemma select_map (request : Request) :
    (r.map f).select request = ((r.select request).1.map f, (r.select request).2) := by
  have hrule : (r.map f).rule? request = r.rule? request := rfl
  rw [select, select, hrule]
  cases r.rule? request with
  | none => rfl
  | some rule =>
    cases hname : rule.groupExpression.execute request with
    | error e => simp only [hname]; rfl
    | ok text =>
      simp only [hname, group?_map]
      split
      · rfl
      · cases r.group? (Text.trimmed text) <;> rfl

/-! ### Building -/

lemma map_make (limiter : L) (expression : String) :
    (make limiter expression).map (map f) = make (f limiter) expression := by
  rw [make, make]
  cases compile expression <;> rfl

lemma map_addGroup (limiter : L) (name expression : String) :
    (r.addGroup limiter name expression).map (map f) =
      (r.map f).addGroup (f limiter) name expression := by
  rw [addGroup, addGroup, knows_map]
  split
  · rfl
  · cases compile expression with
    | error e => rfl
    | ok t =>
      simp only [Except.map, map, List.map_append]
      rfl

lemma map_addRule (pattern expression : String) :
    (r.addRule pattern expression).map (map f) = (r.map f).addRule pattern expression := by
  rw [addRule, addRule]
  cases (Pattern.read pattern).mapError Error.pattern with
  | error e => rfl
  | ok p =>
    cases compile expression with
    | error e => rfl
    | ok t =>
      cases ht : t.constant with
      | none => simp only [ht]; rfl
      | some text =>
        simp only [ht, knows_map]
        split <;> rfl

lemma map_addGroups (limiter : Option String → Config.Params → L) (groups : List Config.Group) :
    (r.addGroups limiter groups).map (map f) =
      (r.map f).addGroups (fun name p => f (limiter name p)) groups := by
  rw [addGroups, addGroups]
  refine map_foldlM ?_ groups r
  intro r g
  exact map_addGroup f r (limiter (some g.name) g.params) g.name g.params.eventExpression

lemma map_addRules (rules : List Config.Rule) :
    (r.addRules rules).map (map f) = (r.map f).addRules rules := by
  rw [addRules, addRules]
  refine map_foldlM ?_ rules r
  intro r rule
  exact map_addRule f r rule.apiPattern rule.groupExpression

/-- Building the router of a configuration with other limiters comes to the same, except for the
limiters. -/
lemma map_ofConfig (limiter : Option String → Config.Params → L) (c : Config) :
    (ofConfig limiter c).map (map f) = ofConfig (fun name p => f (limiter name p)) c := by
  rw [ofConfig, ofConfig]
  cases c.validate with
  | error e => rfl
  | ok u =>
    simp only [bind, Except.bind, ← map_make f]
    cases make (limiter none c.default) c.default.eventExpression with
    | error e => rfl
    | ok start =>
      simp only [Except.map, ← map_addGroups]
      cases start.addGroups limiter c.groups with
      | error e => rfl
      | ok r => exact map_addRules f r c.rules

end map

lemma bare_ofConfig {r : Router L} {limiter : Option String → Config.Params → L} {c : Config}
    (h : ofConfig limiter c = .ok r) : ofConfig (fun _ _ => ()) c = .ok r.bare := by
  have hmap := map_ofConfig (fun _ => ()) limiter c
  rw [h] at hmap
  exact hmap.symm

/-! ## Where requests go -/

/-- Where a request goes. -/
structure Placement where
  /-- The name of the group that serves it. -/
  group : String
  /-- The event that it is there. -/
  event : String
  /-- Why the default group serves it, if a rule wanted otherwise. -/
  fallback : Option Fallback
deriving DecidableEq, Repr

/-- Where a request goes, or why its event expression does not apply. -/
def placement (r : Router L) (request : Request) : Except Error Placement :=
  ((r.select request).1.event request).map fun event =>
    ⟨(r.select request).1.name, event, (r.select request).2⟩

/-- Where a request went, as far as the answer to it tells.  A limiter that did not give an answer
of its own hides it. -/
def placed? : Except Failure Decision → Option (Except Error Placement)
  | .ok d => some (.ok ⟨d.group, d.event, d.fallback⟩)
  | .error (.error (.evaluate fault)) => some (.error (.evaluate fault))
  | .error _ => none

lemma placement_bare (r : Router L) (request : Request) :
    r.bare.placement request = r.placement request := by
  rw [placement, bare, select_map]
  rfl

/-- What is told of where a request went is where it goes, if only event expressions have faults
of evaluation. -/
lemma placement_of_placed? {r : Router L} {a : Arrival L σ} {s : σ}
    {told : Except Error Placement}
    (hreserve : ∀ l event s e, (a.reserve l event s).2 = .error (.error e) → e.isEvaluation = false)
    (h : placed? (r.decide a.reserve a.request s).2.2 = some told) :
    r.placement a.request = told := by
  rw [decide_eq, Group.serve] at h
  rw [placement]
  cases hevent : (r.select a.request).1.event a.request with
  | error e =>
    obtain ⟨fault, rfl⟩ : ∃ fault, e = .evaluate fault := by
      rw [Group.event] at hevent
      split at hevent
      · exact ⟨_, (Except.error.inj hevent).symm⟩
      · exact absurd hevent (by simp)
    simp only [hevent, placed?] at h
    exact Option.some.inj h
  | ok event =>
    simp only [hevent] at h
    cases hanswer : (a.reserve (r.select a.request).1.limiter event s).2 with
    | ok reservation =>
      rw [hanswer] at h
      exact Option.some.inj h
    | error failure =>
      rw [hanswer] at h
      cases failure with
      | delayTooLong => exact absurd h (by simp [Except.map, placed?])
      | unanswered => exact absurd h (by simp [Except.map, placed?])
      | error e =>
        have hfamily := hreserve _ _ _ e hanswer
        cases e with
        | evaluate fault => exact absurd hfamily (by simp [Error.isEvaluation])
        | _ => exact absurd h (by simp [Except.map, placed?])

/-! ## Runs -/

/-- The router when it has counted a request. -/
def seen (r : Router L) (request : Request) : Router L :=
  { r with stats := r.stats.record (r.select request).2 }

lemma bare_seen (r : Router L) (request : Request) :
    (r.seen request).bare = r.bare.seen request := by
  rw [seen, seen, bare, bare, select_map]
  rfl

/-- What becomes of the router at a request is told by the request alone. -/
lemma bare_handle (now : Router L × σ) (a : Arrival L σ) :
    (handle now a).1.bare = now.1.bare.seen a.request := by
  rw [handle, decide_fst]
  exact bare_seen now.1 a.request

lemma bare_handleAll (r : Router L) (arrivals : List (Arrival L σ)) (s : σ) :
    (r.handleAll arrivals s).1.bare = (arrivals.map (·.request)).foldl seen r.bare := by
  induction arrivals using List.reverseRecOn with
  | nil => rfl
  | append_singleton arrivals a ih =>
    rw [handleAll_snoc, bare_handle, ih, List.map_append, List.foldl_append]
    rfl

end Admission.Router
