/-
# The order of groups

A configuration lists its groups in some order, and both the check and the registration walk along
that list with a state that grows.  But what they ask of a configuration does not depend on the
order (`Config.WellFormed`), and what becomes of a request does not either: names are distinct, so
the group of a name is the same wherever it stands (`Reordered`).  So a configuration with its
groups in another order is accepted alike, and its router cannot be told from the first one
(`group_order_is_irrelevant`).  The order of rules is another matter, and it stays as it is here.
-/
import Admission.Proofs.Router.Accepting
import Admission.Proofs.Router.Building
import Admission.Proofs.Router.Mapping
import Mathlib.Data.List.Perm.Basic

namespace Admission

lemma Config.WellFormed.reordered {c : Config} {groups : List Config.Group} (h : c.WellFormed)
    (hperm : c.groups.Perm groups) : ({ c with groups } : Config).WellFormed where
  default_quota := h.default_quota
  default_interval := h.default_interval
  quota g hg := h.quota g (hperm.mem_iff.2 hg)
  interval g hg := h.interval g (hperm.mem_iff.2 hg)
  not_blank g hg := h.not_blank g (hperm.mem_iff.2 hg)
  not_default g hg := h.not_default g (hperm.mem_iff.2 hg)
  names_nodup := (hperm.map _).nodup_iff.1 h.names_nodup
  default_event := h.default_event
  event g hg := h.event g (hperm.mem_iff.2 hg)
  pattern := h.pattern
  expression := h.expression
  constant rule hmem e text he htext :=
    (h.constant rule hmem e text he htext).imp_right <| Or.imp_right fun hname =>
      (hperm.map _).mem_iff.1 hname

namespace Router

variable {L M σ : Type} {r r' : Router L} {request : Request}

/-! ## Routers with the same groups -/

/-- The routers differ at most in the order of their groups. -/
structure Reordered (r r' : Router L) : Prop where
  default_eq : r.default = r'.default
  groups_perm : r.groups.Perm r'.groups
  rules_eq : r.rules = r'.rules
  stats_eq : r.stats = r'.stats

namespace Reordered

/-- Requests are resolved without regard to the order of groups. -/
lemma resolves (h : Reordered r r') {g : Group L} {fallback : Option Fallback}
    (hr : r.Resolves request g fallback) : r'.Resolves request g fallback := by
  -- which rule decides is a matter of the rules alone
  have hdecides : ∀ rule, r.Decides rule request → r'.Decides rule request := by
    intro rule hrule
    rwa [Decides, h.rules_eq] at hrule
  cases hr with
  | unmatched hrules =>
    rw [h.default_eq]
    exact .unmatched (h.rules_eq ▸ hrules)
  | toDefault hrule htext hname =>
    rw [h.default_eq]
    exact .toDefault (hdecides _ hrule) htext hname
  | toGroup hrule htext hgroup hname =>
    exact .toGroup (hdecides _ hrule) htext (h.groups_perm.mem_iff.1 hgroup) hname
  | unknown hrule htext hempty hdefault hgroups =>
    rw [h.default_eq]
    exact .unknown (hdecides _ hrule) htext hempty hdefault fun group hgroup =>
      hgroups group (h.groups_perm.mem_iff.2 hgroup)
  | failed hrule herror =>
    rw [h.default_eq]
    exact .failed (hdecides _ hrule) herror

lemma select_eq (h : Reordered r r') (hr' : WellFormed r') :
    r.select request = r'.select request :=
  (Resolves.select_eq hr' (h.resolves (resolves_select r request))).symm

lemma placement_eq (h : Reordered r r') (hr' : WellFormed r') :
    r.placement request = r'.placement request := by
  rw [placement, placement, h.select_eq hr']

lemma seen (h : Reordered r r') (hr' : WellFormed r') :
    Reordered (r.seen request) (r'.seen request) where
  default_eq := h.default_eq
  groups_perm := h.groups_perm
  rules_eq := h.rules_eq
  stats_eq := by rw [Router.seen, Router.seen, h.stats_eq, h.select_eq hr']

/-- Counting requests keeps two routers the same up to the order of their groups. -/
lemma foldl_seen (h : Reordered r r') (hr' : WellFormed r') (requests : List Request) :
    Reordered (requests.foldl Router.seen r) (requests.foldl Router.seen r') ∧
      WellFormed (requests.foldl Router.seen r') := by
  induction requests generalizing r r' with
  | nil => exact ⟨h, hr'⟩
  | cons request requests ih => exact ih (h.seen hr') (hr'.withStats _)

lemma decide_eq (h : Reordered r r') (hr' : WellFormed r')
    (reserve : L → String → σ → σ × Except Failure Reservation) (s : σ) :
    (r.decide reserve request s).2 = (r'.decide reserve request s).2 := by
  rw [Router.decide_eq r ⟨request, reserve⟩, Router.decide_eq r' ⟨request, reserve⟩,
    h.select_eq hr']

/-- A run of one router does to the budgets what it does with the other. -/
lemma handleAll (h : Reordered r r') (hr' : WellFormed r') (run : List (Arrival L σ)) (s : σ) :
    Reordered (r.handleAll run s).1 (r'.handleAll run s).1 ∧ WellFormed (r'.handleAll run s).1 ∧
      (r.handleAll run s).2 = (r'.handleAll run s).2 := by
  induction run using List.reverseRecOn with
  | nil => exact ⟨h, hr', rfl⟩
  | append_singleton run a ih =>
    obtain ⟨hnow, hwell, hbudgets⟩ := ih
    rw [handleAll_snoc, handleAll_snoc, handle, handle, decide_fst, decide_fst, hbudgets]
    exact ⟨hnow.seen hwell, hwell.withStats _, congrArg Prod.fst (hnow.decide_eq hwell _ _)⟩

end Reordered

/-! ## Routers of configurations -/

section

variable {limiter : Option String → Config.Params → L} {c : Config} {groups : List Config.Group}

lemma Group.Follows.unique {made other : Group L} {g : Config.Group}
    (h : Group.Follows limiter made g) (h' : Group.Follows limiter other g) : made = other := by
  obtain ⟨name, l, e⟩ := made
  obtain ⟨name', l', e'⟩ := other
  have hname : name = name' := h.name_eq.trans h'.name_eq.symm
  have hlimiter : l = l' := h.limiter_eq.trans h'.limiter_eq.symm
  have hevent : e = e' := Except.ok.inj (h.compiled.symm.trans h'.compiled)
  rw [hname, hlimiter, hevent]

lemma Rule.Follows.unique {made other : Rule} {rule : Config.Rule} (h : Rule.Follows made rule)
    (h' : Rule.Follows other rule) : made = other := by
  obtain ⟨p, e⟩ := made
  obtain ⟨p', e'⟩ := other
  have hpattern : p = p' := Except.ok.inj (h.read.symm.trans h'.read)
  have hexpression : e = e' := Except.ok.inj (h.compiled.symm.trans h'.compiled)
  rw [hpattern, hexpression]

/-- Groups in another order make a router with its groups in another order. -/
lemma reordered_of_ofConfig (hperm : c.groups.Perm groups) (h : ofConfig limiter c = .ok r)
    (h' : ofConfig limiter { c with groups } = .ok r') : Reordered r r' := by
  obtain ⟨-, e, made, rules, he, hmade, hrules, -, rfl⟩ := ofConfig_eq_ok_iff.1 h
  obtain ⟨-, e', made', rules', he', hmade', hrules', -, rfl⟩ := ofConfig_eq_ok_iff.1 h'
  have hdefault : e = e' := Except.ok.inj (he.symm.trans he')
  have hgroups : made.Perm made' := by
    refine List.rel_perm_imp ?_ hmade.flip hmade'.flip hperm
    exact fun _ _ _ hg hg' => Group.Follows.unique hg hg'
  have hsame : rules = rules' := by
    refine List.left_unique_forall₂' ?_ hrules hrules'
    exact fun _ _ _ hrule hrule' => Rule.Follows.unique hrule hrule'
  exact ⟨by rw [hdefault], hgroups, hsame, rfl⟩

end

/-! ## What is told of a request -/

/-- The outcome of a decision about a request of which this is told, if the limiter of its group
answers so. -/
def outcomeOf (told : Except Error Placement) (answer : String → Except Failure Reservation) :
    Except Failure Decision :=
  match told with
  | .error e => .error (.error e)
  | .ok place => (answer place.event).map fun reservation =>
      ⟨place.group, place.event, reservation, place.fallback⟩

/-- All decisions of the router about the request tell this, whatever its limiter answers. -/
def Tells (r : Router L) (request : Request) (told : Except Error Placement) : Prop :=
  ∃ l : L, ∀ {σ : Type} (reserve : L → String → σ → σ × Except Failure Reservation) (s : σ),
    (r.decide reserve request s).2.2 = outcomeOf told fun event => (reserve l event s).2

lemma tells_placement (r : Router L) (request : Request) :
    r.Tells request (r.placement request) := by
  refine ⟨(r.select request).1.limiter, fun reserve s => ?_⟩
  rw [decide, placement]
  cases hevent : (r.select request).1.event request <;> simp only [hevent] <;> rfl

/-- **The order of groups is irrelevant.**  A configuration with its groups in another order is
accepted if and only if the first one is, whatever makes the limiters of the two routers.  When the
same requests have come to both, whatever their limiters answered, the counters are the same, and
the next request is told the same: the group, the event and the fallback, or the fault of the event
expression.  And if the same limiters were made for the same groups, the two routers go through
every run with the same budgets and the same decisions. -/
theorem group_order_is_irrelevant (c : Config) {groups : List Config.Group}
    (hperm : c.groups.Perm groups) :
    (∀ {L M : Type} (limiter : Option String → Config.Params → L)
      (limiter' : Option String → Config.Params → M),
      ((∃ r, ofConfig limiter c = .ok r) ↔ ∃ r', ofConfig limiter' { c with groups } = .ok r') ∧
      ∀ r r', ofConfig limiter c = .ok r → ofConfig limiter' { c with groups } = .ok r' →
        ∀ {σ τ : Type} (run : List (Arrival L σ)) (run' : List (Arrival M τ)) (s : σ) (s' : τ),
          run.map (·.request) = run'.map (·.request) →
          let now := (r.handleAll run s).1
          let now' := (r'.handleAll run' s').1
          now.stats = now'.stats ∧
            ∀ request, ∃ told, now.Tells request told ∧ now'.Tells request told) ∧
    ∀ {L : Type} (limiter : Option String → Config.Params → L) r r',
      ofConfig limiter c = .ok r → ofConfig limiter { c with groups } = .ok r' →
        ∀ {σ : Type} (run : List (Arrival L σ)) (s : σ),
          let now := r.handleAll run s
          let now' := r'.handleAll run s
          now.2 = now'.2 ∧ ∀ a : Arrival L σ,
            (now.1.decide a.reserve a.request now.2).2 =
              (now'.1.decide a.reserve a.request now'.2).2 := by
  refine ⟨fun limiter limiter' => ⟨⟨?_, ?_⟩, ?_⟩, ?_⟩
  · rintro ⟨r, hr⟩
    exact exists_ofConfig_of_wellFormed ((wellFormed_of_ofConfig hr).reordered hperm)
  · rintro ⟨r', hr'⟩
    exact exists_ofConfig_of_wellFormed ((wellFormed_of_ofConfig hr').reordered hperm.symm)
  · intro r r' hr hr' σ τ run run' s s' hrequests now now'
    -- what both runs do to the routers is read off their requests, without the limiters
    have hbare := bare_ofConfig hr'
    have hstart := reordered_of_ofConfig hperm (bare_ofConfig hr) hbare
    obtain ⟨hnow, hwell⟩ := hstart.foldl_seen (built_ofConfig hbare).toWellFormed
      (run.map (·.request))
    have hrun' := bare_handleAll r' run' s'
    rw [← hrequests] at hrun'
    rw [← bare_handleAll r run s, ← hrun'] at hnow
    rw [← hrun'] at hwell
    refine ⟨hnow.stats_eq, fun request => ⟨now.placement request, tells_placement now request, ?_⟩⟩
    have hplaced : now.placement request = now'.placement request := by
      rw [← placement_bare now, hnow.placement_eq hwell, placement_bare]
    rw [hplaced]
    exact tells_placement now' request
  · intro L limiter r r' hr hr' σ run s now now'
    obtain ⟨hnow, hwell, hbudgets⟩ :=
      (reordered_of_ofConfig hperm hr hr').handleAll (built_ofConfig hr').toWellFormed run s
    refine ⟨hbudgets, fun a => ?_⟩
    rw [hbudgets]
    exact hnow.decide_eq hwell a.reserve now'.2

/-- The header `Tier` names the group.  One request comes for a tier that has no group and is not
answered, and the next one is for the second of two groups, which comes first in the other order. -/
theorem group_order_is_irrelevant_to_tiers :
    let tier : Config.Rule := ⟨"/x", "\x7b\x7b.Header.Tier\x7d\x7d"⟩
    let silver : Config.Group := ⟨"silver", ⟨1, .ofSeconds 1, "all"⟩⟩
    let bronze : Config.Group := ⟨"bronze", ⟨2, .ofSeconds 1, "\x7b\x7b.Subject\x7d\x7d"⟩⟩
    let c : Config := ⟨⟨5, .ofSeconds 60, ""⟩, [silver, bronze], [tier], none⟩
    let gold := (Request.make "GET" "/x").withHeader "Tier" "gold"
    let next := ((Request.make "GET" "/x").withHeader "Tier" "bronze").withIdentity (.user "u")
    ∃ r, ofConfig (fun name _ => name) { c with groups := [bronze, silver] } = .ok r ∧
      let now := (r.handleAll [⟨gold, fun _ _ n => (n + 1, .error .unanswered)⟩] 0).1
      now.stats = ⟨1, 0⟩ ∧
        (now.decide (fun _ _ s => (s, .ok (.grant 7))) next ()).2.2 =
          .ok ⟨"bronze", "u", .grant 7, none⟩ := by
  intro tier silver bronze c gold next
  have hperm : c.groups.Perm [bronze, silver] := .swap _ _ _
  -- the router with the groups in the first order is run
  have hfirst : (ofConfig (fun _ _ => ()) c).map (fun r =>
      let now := (r.handleAll [⟨gold, fun _ _ (_ : Unit) => ((), .error .unanswered)⟩] ()).1
      (now.stats, (now.decide (fun _ _ s => (s, .ok (.grant 7))) next ()).2.2)) =
      .ok (⟨1, 0⟩, .ok ⟨"bronze", "u", .grant 7, none⟩) := by
    decide +kernel
  obtain ⟨r, hr, hvalues⟩ := map_eq_ok_iff.1 hfirst
  obtain ⟨hstats, hdecision⟩ := Prod.ext_iff.1 hvalues
  obtain ⟨haccepted, hruns⟩ := (group_order_is_irrelevant c hperm).1
    (fun _ _ => ()) (fun name _ => name)
  obtain ⟨r', hr'⟩ := haccepted.1 ⟨r, hr⟩
  obtain ⟨hsame, htold⟩ := hruns r r' hr hr'
    [⟨gold, fun _ _ _ => ((), .error .unanswered)⟩]
    [⟨gold, fun _ _ n => (n + 1, .error .unanswered)⟩] () 0 rfl
  obtain ⟨told, ⟨l, htells⟩, l', htells'⟩ := htold next
  refine ⟨r', hr', hsame.symm.trans hstats, ?_⟩
  exact (htells' _ ()).trans ((htells _ ()).symm.trans hdecision)

end Router

end Admission
