/-
# Groups under their own names

A rule names a group by an expression, and what the expression gives is trimmed before the group is
looked up.  Names are not trimmed when groups are registered.  So the name of a group, used as an
expression, leads to the group exactly if it has no outer blanks (`name_reaches_group_iff_trimmed`);
no expression at all leads to a group whose name has some (`WellFormed.trimmed_select`).
-/
import Admission.Proofs.Router.Counting
import Admission.Proofs.Template.Plain
import Admission.Proofs.Text.Trimming

namespace Admission.Router

variable {L σ : Type} {r t : Router L} {request : Request} {g : Group L}

/-! ## Names that are looked up -/

/-- Requests resolve to groups whose names have no outer blanks. -/
lemma Resolves.trimmed_name {fallback : Option Fallback} (hr : WellFormed r)
    (h : r.Resolves request g fallback) : Text.trimmed g.name = g.name := by
  have hdefault : Text.trimmed r.default.name = r.default.name := by
    rw [hr.default_name]
    decide +kernel
  cases h with
  | unmatched hrules => exact hdefault
  | toDefault hrule htext hname => exact hdefault
  | toGroup hrule htext hgroup hname => rw [hname, Text.trimmed_trimmed]
  | unknown hrule htext hempty hname hgroups => exact hdefault
  | failed hrule herror => exact hdefault

lemma WellFormed.trimmed_select (hr : WellFormed r) (request : Request) :
    Text.trimmed (r.select request).1.name = (r.select request).1.name :=
  (resolves_select r request).trimmed_name hr

/-! ## Rules that are a name -/

/-- A rule whose expression is a plain text is added if the trimmed text is known. -/
lemma register_plain_rule {apiPattern expression : String} {p : Pattern} {e : Template}
    (hp : Pattern.read apiPattern = .ok p) (he : Template.compile expression = .ok e)
    (hconstant : e.constant = some expression) :
    r.register (.rule apiPattern expression) =
      if r.knows (Text.trimmed expression) = true then
        ({ r with rules := r.rules ++ [⟨p, e⟩] }, .ok ())
      else (r, .error (.unknownGroup (Text.trimmed expression))) := by
  have hread : (Pattern.read apiPattern).mapError Error.pattern = .ok p :=
    mapError_eq_ok_iff.2 hp
  rw [register_eq, attempt, addRule, hread, compile_eq_ok_iff.2 he]
  dsimp only
  rw [hconstant]
  dsimp only
  cases r.knows (Text.trimmed expression) <;> rfl

/-- Later calls keep the groups that are there. -/
lemma mem_groups_registered (hg : g ∈ r.groups) (calls : List (Registration L)) :
    g ∈ (r.registered calls).groups := by
  refine registered_keeps (P := fun t => g ∈ t.groups) (fun s s' call hok hs => ?_) hg
  cases call with
  | group limiter name eventExpression =>
    obtain ⟨e, -, rfl⟩ := adds_of_attempt hok
    exact List.mem_append_left _ hs
  | rule apiPattern groupExpression =>
    obtain ⟨p, e, -, -, rfl⟩ := adds_of_attempt hok
    exact hs

/-- A request on which a rule decides that is the name of a group is served by the group. -/
lemma WellFormed.decide_of_name {rule : Rule} (hr : WellFormed r) (hg : g ∈ r.groups)
    (hconstant : rule.groupExpression.constant = some g.name)
    (htrimmed : Text.trimmed g.name = g.name) (a : Arrival L σ) (s : σ)
    (hrule : r.Decides rule a.request) :
    r.decide a.reserve a.request s = (r, g.serve none a s) := by
  have hexecute : rule.groupExpression.execute a.request = .ok g.name := by
    rw [Template.execute, hconstant]
  have hselect : r.select a.request = (g, none) :=
    (Resolves.toGroup hrule hexecute hg htrimmed.symm).select_eq hr
  rw [decide_eq, hselect]
  rfl

/-- **The name of a group leads to the group exactly if it has no outer blanks.**  Take any group of
a router that any calls have set up, with a name that opens no action, and a rule for any pattern
whose expression is this name.  If the name has no outer blanks, the rule is added, and whatever is
registered after it, the group serves every request on which the rule decides, without a fallback.
If it has some, the rule is refused unless there is a group under the trimmed name, and neither this
rule nor any other one ever gives a request to the group. -/
theorem name_reaches_group_iff_trimmed {limiter : L} {expression : String} {start : Router L}
    (h : make limiter expression = .ok start) (calls : List (Registration L)) :
    let r := start.registered calls
    ∀ g ∈ r.groups, Template.Plain g.name.toList →
      ∀ apiPattern pattern, Pattern.read apiPattern = .ok pattern →
        let registered := r.register (.rule apiPattern g.name)
        (Text.trimmed g.name = g.name →
          registered.2 = .ok () ∧ ∃ rule, rule.pattern = pattern ∧
            registered.1 = { r with rules := r.rules ++ [rule] } ∧
            ∀ (σ : Type) later stats (a : Arrival L σ) s,
              let t := { registered.1.registered later with stats }
              t.Decides rule a.request →
                t.decide a.reserve a.request s = (t, g.serve none a s)) ∧
        (Text.trimmed g.name ≠ g.name →
          registered.2 = (if r.knows (Text.trimmed g.name) = true then .ok ()
            else .error (.unknownGroup (Text.trimmed g.name))) ∧
          ∀ later request,
            ((registered.1.registered later).select request).1.name ≠ g.name) := by
  intro r g hg hplain apiPattern pattern hpattern registered
  have hr : WellFormed r := (wellFormed_make h).registered calls
  obtain ⟨e, he, hconstant⟩ := Template.compile_of_plain hplain
  have hregistered : registered = _ := register_plain_rule hpattern he hconstant
  have hwell : WellFormed registered.1 := hr.registered [.rule apiPattern g.name]
  constructor
  · intro htrimmed
    have hknown : r.knows (Text.trimmed g.name) = true := by
      rw [htrimmed]
      exact knows_iff.2 (.inr (List.mem_map_of_mem hg))
    rw [if_pos hknown] at hregistered
    refine ⟨by rw [hregistered], ⟨pattern, e⟩, rfl, by rw [hregistered], ?_⟩
    intro σ later stats a s t hrule
    have ht : WellFormed t := (hwell.registered later).withStats stats
    have hkept : g ∈ t.groups :=
      mem_groups_registered (mem_groups_registered hg [.rule apiPattern g.name]) later
    exact ht.decide_of_name hkept hconstant htrimmed a s hrule
  · intro hblanks
    refine ⟨?_, fun later request hsame => hblanks ?_⟩
    · rw [hregistered, apply_ite Prod.snd]
    · rw [← hsame]
      exact (hwell.registered later).trimmed_select request

/-- A name with a blank and a brace inside reaches its group, past a rule that is there already. -/
theorem inner_blank_reaches_group :
    let start : Router Unit := ⟨⟨"default", (), ⟨"", .done⟩⟩, [], [], ⟨0, 0⟩⟩
    let calls : List (Registration Unit) := [.group () "new api\x7b" "", .rule "/x" "default",
      .group () "api" ""]
    let r := start.registered calls
    let t := (r.register (.rule "/y" "new api\x7b")).1
    let a : Arrival Unit (List String) := ⟨Request.make "GET" "/y",
      fun _ event asked => (event :: asked, .ok (.grant 0))⟩
    (r.register (.rule "/y" "new api\x7b")).2 = .ok () ∧
      ∃ g ∈ r.groups, g.name = "new api\x7b" ∧
        t.decide a.reserve a.request [] = (t, g.serve none a []) := by
  intro start calls r t a
  have hexpression : Template.compile "" = .ok ⟨"", .done⟩ := by decide +kernel
  have hmake : make () "" = .ok start := by
    rw [make, compile, hexpression]
    rfl
  have hpattern : Pattern.read "/y" = .ok ⟨"/y", none, [.word "y"], false⟩ := by decide +kernel
  have hmem : "new api\x7b" ∈ r.groupNames := by decide +kernel
  obtain ⟨g, hg, hname⟩ := List.mem_map.1 hmem
  have hplain : Template.Plain g.name.toList := by rw [hname]; decide +kernel
  have htrimmed : Text.trimmed g.name = g.name := by rw [hname]; decide +kernel
  obtain ⟨hok, rule, hrule, hadded, hserved⟩ :=
    (name_reaches_group_iff_trimmed hmake calls g hg hplain _ _ hpattern).1 htrimmed
  rw [hname] at hok hadded hserved
  have hadded : t = { r with rules := r.rules ++ [rule] } := hadded
  have hearlier : ∀ earlier ∈ r.rules, earlier.pattern.matches? "GET" "/y" = false := by
    decide +kernel
  have hdecides : t.Decides rule a.request := by
    refine ⟨r.rules, [], by rw [hadded], ?_, hearlier⟩
    rw [hrule]
    decide +kernel
  exact ⟨hok, g, hg, hname, hserved _ [] t.stats a [] hdecides⟩

/-- A name with a blank in front of it is registered and cannot be reached. -/
theorem padded_name_is_refused :
    let start : Router Unit := ⟨⟨"default", (), ⟨"", .done⟩⟩, [], [], ⟨0, 0⟩⟩
    let r := start.registered [.group () " api" ""]
    make () "" = .ok start ∧ r.groupNames = [" api"] ∧ Template.Plain " api".toList ∧
      Pattern.read "/x" = .ok ⟨"/x", none, [.word "x"], false⟩ ∧
      (r.register (.rule "/x" " api")).2 = .error (.unknownGroup "api") := by
  intro start r
  have hexpression : Template.compile "" = .ok ⟨"", .done⟩ := by decide +kernel
  refine ⟨?_, by decide +kernel, by decide +kernel, by decide +kernel, by decide +kernel⟩
  rw [make, compile, hexpression]
  rfl

end Admission.Router
