/-
# How requests are resolved

The first rule that matches a request decides which group serves it, and only this rule does
(`Decides`).  Its group expression names a group; a name that is not registered and an expression
that does not apply leave the request to the default group, with the reason (`Resolves`).  A
well-formed router selects exactly what requests resolve to (`resolves_iff`), and a deciding rule
whose group expression is the same text for all requests never leaves one to the default group
against its will (`constant_rules_never_misroute`).
-/
import Admission.Proofs.Router.Deciding
import Mathlib.Data.List.Nodup

namespace Admission.Router

variable {L σ : Type} {r : Router L} {request : Request} {rule : Rule} {g : Group L}
  {fallback : Option Fallback}

/-! ## The deciding rule -/

/-- The rule decides about the request: it matches, and no earlier one does. -/
def Decides (r : Router L) (rule : Rule) (request : Request) : Prop :=
  ∃ before after, r.rules = before ++ rule :: after ∧
    rule.pattern.matches? request.method request.path = true ∧
    ∀ earlier ∈ before, earlier.pattern.matches? request.method request.path = false

lemma rule?_eq_some_iff : r.rule? request = some rule ↔ r.Decides rule request := by
  rw [rule?, List.find?_eq_some_iff_append, Decides]
  simp only [Bool.not_eq_true']
  exact ⟨fun ⟨hmatch, before, after, hrules, hbefore⟩ => ⟨before, after, hrules, hmatch, hbefore⟩,
    fun ⟨before, after, hrules, hmatch, hbefore⟩ => ⟨hmatch, before, after, hrules, hbefore⟩⟩

lemma rule?_eq_none_iff :
    r.rule? request = none ↔
      ∀ rule ∈ r.rules, rule.pattern.matches? request.method request.path = false := by
  rw [rule?, List.find?_eq_none]
  simp only [Bool.not_eq_true]

/-! ## Resolution -/

/-- The group that is to serve a request, and the reason if it is the default group although a
rule wanted otherwise. -/
inductive Resolves (r : Router L) (request : Request) : Group L → Option Fallback → Prop where
  /-- No rule matches. -/
  | unmatched (hrules : ∀ rule ∈ r.rules,
      rule.pattern.matches? request.method request.path = false) :
    Resolves r request r.default none
  /-- The deciding rule names the default group. -/
  | toDefault {rule : Rule} {text : String} (hrule : r.Decides rule request)
      (htext : rule.groupExpression.execute request = .ok text)
      (hname : Text.trimmed text = "" ∨ Text.trimmed text = "default") :
    Resolves r request r.default none
  /-- The deciding rule names a registered group. -/
  | toGroup {rule : Rule} {text : String} {group : Group L} (hrule : r.Decides rule request)
      (htext : rule.groupExpression.execute request = .ok text) (hgroup : group ∈ r.groups)
      (hname : group.name = Text.trimmed text) :
    Resolves r request group none
  /-- The deciding rule names a group that is not registered. -/
  | unknown {rule : Rule} {text : String} (hrule : r.Decides rule request)
      (htext : rule.groupExpression.execute request = .ok text)
      (hempty : Text.trimmed text ≠ "") (hdefault : Text.trimmed text ≠ "default")
      (hgroups : ∀ group ∈ r.groups, group.name ≠ Text.trimmed text) :
    Resolves r request r.default (some (.unknownGroup (Text.trimmed text)))
  /-- The group expression of the deciding rule does not apply. -/
  | failed {rule : Rule} {e : Template.Error} (hrule : r.Decides rule request)
      (herror : rule.groupExpression.execute request = .error e) :
    Resolves r request r.default (some (.evaluationFailed e.message))

/-- What the router selects is what the request resolves to. -/
lemma resolves_select (r : Router L) (request : Request) :
    r.Resolves request (r.select request).1 (r.select request).2 := by
  rw [select]
  split
  · rename_i hnone
    exact .unmatched (rule?_eq_none_iff.1 hnone)
  · rename_i rule hsome
    have hrule := rule?_eq_some_iff.1 hsome
    split
    · rename_i e herror
      exact .failed hrule herror
    · rename_i text htext
      dsimp only
      split
      · rename_i hdefault
        exact .toDefault hrule htext (isDefault_iff.1 hdefault)
      · rename_i hnamed
        split
        · rename_i group hgroup
          exact .toGroup hrule htext (List.mem_of_find?_eq_some hgroup)
            (by simpa using List.find?_some hgroup)
        · -- no group is found under the name, so none has it
          rename_i hmissing
          obtain ⟨hempty, hdefault⟩ := not_or.1 (mt isDefault_iff.2 hnamed)
          refine .unknown hrule htext hempty hdefault fun group hgroup hname => ?_
          exact group?_eq_none_iff.1 hmissing (hname ▸ List.mem_map_of_mem hgroup)

/-- In a well-formed router a name belongs to one group only. -/
lemma WellFormed.group?_eq_some (hr : WellFormed r) (hg : g ∈ r.groups) :
    r.group? g.name = some g := by
  cases hfound : r.group? g.name with
  | none => exact absurd (List.mem_map_of_mem hg) (group?_eq_none_iff.1 hfound)
  | some other =>
    have hname : other.name = g.name := by simpa using List.find?_some hfound
    exact congrArg some
      (List.inj_on_of_nodup_map hr.names_nodup (List.mem_of_find?_eq_some hfound) hg hname)

/-- A request that resolves to the default group for a reason is selected for it. -/
lemma Resolves.select_of_fallback {reason : Fallback} (h : r.Resolves request g (some reason)) :
    r.select request = (g, some reason) := by
  cases h with
  | unknown hrule htext hempty hdefault hgroups =>
    have hnamed := isDefault_eq_false_iff.2 ⟨hempty, hdefault⟩
    have hmissing : r.group? _ = none := group?_eq_none_iff.2 fun hmem => by
      obtain ⟨group, hgroup, hname⟩ := List.mem_map.1 hmem
      exact hgroups group hgroup hname
    simp only [select, rule?_eq_some_iff.2 hrule, htext, hnamed, Bool.false_eq_true, if_false,
      hmissing]
  | failed hrule herror => simp only [select, rule?_eq_some_iff.2 hrule, herror]

/-- In a well-formed router a request resolves to nothing but what the router selects. -/
lemma Resolves.select_eq (hr : WellFormed r) (h : r.Resolves request g fallback) :
    r.select request = (g, fallback) := by
  cases hreason : fallback with
  | some reason =>
    rw [hreason] at h
    exact h.select_of_fallback
  | none =>
    rw [hreason] at h
    cases h with
    | unmatched hrules => simp only [select, rule?_eq_none_iff.2 hrules]
    | toDefault hrule htext hname =>
      simp only [select, rule?_eq_some_iff.2 hrule, htext, isDefault_iff.2 hname, if_true]
    | toGroup hrule htext hgroup hname =>
      have hnamed := hr.not_default g hgroup
      have hfound := hr.group?_eq_some hgroup
      rw [hname] at hnamed hfound
      simp only [select, rule?_eq_some_iff.2 hrule, htext, hnamed, Bool.false_eq_true, if_false,
        hfound]

/-- Requests are resolved in exactly one way. -/
lemma WellFormed.resolves_iff (hr : WellFormed r) :
    r.Resolves request g fallback ↔ r.select request = (g, fallback) := by
  refine ⟨Resolves.select_eq hr, fun h => ?_⟩
  have hselect := resolves_select r request
  rwa [h] at hselect

/-! ## Rules that name one group for all requests -/

lemma Decides.mem (h : r.Decides rule request) : rule ∈ r.rules := by
  obtain ⟨before, after, hrules, -⟩ := h
  rw [hrules]
  exact List.mem_append_right before List.mem_cons_self

/-- A constant rule names a group that was there when it was added, so it leaves no request to the
default group for want of another. -/
lemma WellFormed.select_of_constant (hr : WellFormed r) {text : String}
    (hrule : r.Decides rule request) (htext : rule.groupExpression.constant = some text) :
    (r.select request).2 = none := by
  have hexecute : rule.groupExpression.execute request = .ok text := by
    rw [Template.execute, htext]
  -- what the router selects is settled by where the name is known from
  rcases knows_iff.1 (hr.constants_known rule hrule.mem text htext) with hdefault | hmem
  · rw [(Resolves.toDefault hrule hexecute (isDefault_iff.1 hdefault)).select_eq hr]
  · obtain ⟨group, hgroup, hname⟩ := List.mem_map.1 hmem
    rw [(Resolves.toGroup hrule hexecute hgroup hname).select_eq hr]

/-- **Setting up is atomic, and constant rules cannot misroute.**  Whatever calls a new router has
seen, a further one that fails leaves it as it is, one that succeeds adds its group or its rule, and
which of them succeed is said by `Accepts`.  The names of the groups are distinct and stand for no
default group, and a rule that is the same for all requests names a group that is there.  So no
request on which such a rule decides is left to the default group for want of another, nor
counted. -/
theorem constant_rules_never_misroute {limiter : L} {expression : String} {start : Router L}
    (h : make limiter expression = .ok start) (calls : List (Registration L)) :
    let r := start.registered calls
    (∀ call,
      (∀ e, (r.register call).2 = .error e → (r.register call).1 = r) ∧
      ((r.register call).2 = .ok () → r.Adds (r.register call).1 call) ∧
      ((r.register call).2 = .ok () ↔ r.Accepts call)) ∧
    (r.groupNames.Nodup ∧
      (∀ name ∈ r.groupNames, name ≠ "" ∧ name ≠ "default") ∧
      ∀ rule ∈ r.rules, ∀ text, rule.groupExpression.constant = some text →
        Text.trimmed text = "" ∨ Text.trimmed text = "default" ∨
          Text.trimmed text ∈ r.groupNames) ∧
    ∀ request rule text, r.Decides rule request → rule.groupExpression.constant = some text →
      ∀ {σ : Type} (reserve : L → String → σ → σ × Except Failure Reservation) (stats : Stats)
        (s : σ),
        let decided := { r with stats }.decide reserve request s
        decided.1 = { r with stats } ∧ ∀ d, decided.2.2 = .ok d → d.fallback = none := by
  intro r
  have hr : WellFormed r := (wellFormed_make h).registered calls
  refine ⟨fun call => ?_, ⟨hr.names_nodup, ?_, ?_⟩, ?_⟩
  · rcases register_cases r call with ⟨e, hattempt, herror⟩ | ⟨t, hattempt, hok⟩
    · rw [herror]
      refine ⟨fun _ _ => rfl, fun h => absurd h (by simp), fun h => absurd h (by simp), ?_⟩
      intro haccepts
      obtain ⟨t, hok⟩ := accepts_iff.1 haccepts
      exact absurd (hattempt.symm.trans hok) (by simp)
    · rw [hok]
      exact ⟨fun _ h => absurd h (by simp), fun _ => adds_of_attempt hattempt,
        fun _ => accepts_iff.2 ⟨t, hattempt⟩, fun _ => rfl⟩
  · intro name hname
    obtain ⟨group, hgroup, rfl⟩ := List.mem_map.1 hname
    exact isDefault_eq_false_iff.1 (hr.not_default group hgroup)
  · intro rule hrule text htext
    rw [← or_assoc, ← isDefault_iff]
    exact knows_iff.1 (hr.constants_known rule hrule text htext)
  · intro request rule text hrule htext σ reserve stats s decided
    have hfallback : ({ r with stats }.select request).2 = none :=
      (hr.withStats stats).select_of_constant hrule htext
    refine ⟨?_, fun d hd => ?_⟩
    · have hfst : decided.1 = _ := decide_fst
      rw [hfst, hfallback]
      rfl
    · rw [fallback_of_decide hd, hfallback]

/-- A rule with blanks around the name, after calls of which the second and the last one fail, for
a limiter that is out of reach. -/
theorem constant_rule_with_blanks :
    let start : Router Unit := ⟨⟨"default", (), ⟨"", .done⟩⟩, [], [], ⟨0, 0⟩⟩
    let calls : List (Registration Unit) := [.group () "api" "x", .group () "api" "y",
      .rule "GET /x" " api\t", .rule "/x" "web"]
    let r := start.registered calls
    let decided := { r with stats := ⟨3, 5⟩ }.decide
      (fun _ event asked => (event :: asked, .error .unanswered)) (Request.make "GET" "/x") []
    make () "" = .ok start ∧
      (start.register (.rule "/x" "web")).2 = .error (.unknownGroup "web") ∧
      (start.register (.rule "/x" "web")).1 = start ∧
      r.groupNames = ["api"] ∧ r.rules.length = 1 ∧ decided.1 = { r with stats := ⟨3, 5⟩ } ∧
      decided.2.1 = ["x"] := by
  intro start calls r decided
  have hexpression : Template.compile "" = .ok ⟨"", .done⟩ := by decide +kernel
  have hmake : make () "" = .ok start := by
    rw [make, compile, hexpression]
    rfl
  have herror : (start.register (.rule "/x" "web")).2 = .error (.unknownGroup "web") := by
    decide +kernel
  have hrule : r.rule? (Request.make "GET" "/x") =
      some ⟨⟨"GET /x", some "GET", [.word "x"], false⟩, ⟨" api\t", .text " api\t" .done⟩⟩ := by
    decide +kernel
  refine ⟨hmake, herror, ?_, by decide +kernel, by decide +kernel, ?_, by decide +kernel⟩
  · exact ((constant_rules_never_misroute hmake []).1 (.rule "/x" "web")).1 _ herror
  · exact ((constant_rules_never_misroute hmake calls).2.2 _ _ _ (rule?_eq_some_iff.1 hrule) rfl
      _ _ _).1

end Admission.Router
