/-
# What a decision asks of the store

In a router over a shared store a decision asks for one increment, that of its budget, or it asks
for nothing because the event expression does not apply to an anonymous request.  The store may do
what it likes: it is a function here that changes a state and ends round trips somehow, and a log
keeps what it is asked.  Faults of a configuration never come up while requests are served
(`decide_asks_at_most_once`), as long as the store fails with faults of its own family only, which
the store in memory and the store on a server do (`ownFaults_memory`, `ownFaults_server`).
-/
import Admission.Proofs.Router.Counting
import Admission.Proofs.Template.Soundness
import Admission.Window.Server

namespace Admission

lemma Error.families_of_infrastructure {e : Error} (h : e.isInfrastructure = true) :
    e.isConfig = false ∧ e.isDisabled = false := by
  cases e <;> first | exact ⟨rfl, rfl⟩ | exact absurd h Bool.false_ne_true

lemma Error.not_evaluation_of_infrastructure {e : Error} (h : e.isInfrastructure = true) :
    e.isEvaluation = false := by
  cases e <;> first | exact rfl | exact absurd h Bool.false_ne_true

namespace Window

variable {σ : Type}

lemma Limiter.snd_reserveFrom (store : σ → Ask → σ × Attempt) (l : Limiter) (event : String)
    (s : σ) : (l.reserveFrom store event s).2 = l.conclude (store s (l.ask event)).2 :=
  rfl

/-- A store with a log of what it is asked, the latest first. -/
def logging (store : σ → Ask → σ × Attempt) (s : σ × List Ask) (ask : Ask) :
    (σ × List Ask) × Attempt :=
  (((store s.1 ask).1, ask :: s.2), (store s.1 ask).2)

/-! ## Stores that fail with faults of stores -/

/-- The store fails with faults of its own family only. -/
def OwnFaults (store : σ → Ask → σ × Attempt) : Prop :=
  ∀ s ask e, (store s ask).2 = .failed e → e.isInfrastructure = true

/-- A connection to the store in memory fails exactly if it is told to. -/
lemma Shared.increment_eq_failed_iff {s : Shared} {ask : Ask} {e : Error} :
    (s.increment ask).2 = .failed e ↔ s.link = .failing e := by
  rw [Shared.increment]
  cases s.link <;> simp

/-- The store in memory never fails. -/
lemma ownFaults_memory :
    OwnFaults fun (s : Shared) ask => Shared.increment { s with link := .up } ask := by
  intro s ask e hfailed
  exact absurd (Shared.increment_eq_failed_iff.1 hfailed) (by simp)

/-- What a server refuses, and a counter on it that never expires, are faults of the store. -/
lemma Server.Reply.isInfrastructure_of_attempt {key : String} {reply : Reply} {e : Error}
    (h : reply.attempt key = .failed e) : e.isInfrastructure = true := by
  cases reply with
  | numbers count ttl epoch =>
    rw [attempt] at h
    split at h
    · obtain rfl := Attempt.failed.inj h
      rfl
    · exact absurd h (by simp)
  | refused text =>
    obtain rfl := Attempt.failed.inj h
    rfl
  | pending => exact absurd h (by simp [attempt])

/-- Whatever a store server does, the store on it fails with faults of stores. -/
lemma ownFaults_server (run : σ → String → UInt64 → σ × Server.Reply) :
    OwnFaults (Server.increment run) :=
  fun _ _ _ hfailed => Server.Reply.isInfrastructure_of_attempt hfailed

end Window

namespace Router

open Window (Ask Attempt logging)

variable {L σ : Type} {service : String} {settings : Settings} {c : Config}

/-! ## Groups that serve requests -/

section serve

variable {g : Group L} {fallback : Option Fallback} {a : Arrival L σ} {s : σ}

lemma Group.serve_of_error {e : Template.Error}
    (h : g.eventExpression.execute a.request = .error e) :
    g.serve fallback a s = (s, .error (.error (.evaluate e))) := by
  rw [Group.serve, Group.event, h]

lemma Group.serve_of_ok {text : String} (h : g.eventExpression.execute a.request = .ok text) :
    g.serve fallback a s =
      let event := if Text.trimmed text = "" then anonymousEvent else Text.trimmed text
      ((a.reserve g.limiter event s).1, (a.reserve g.limiter event s).2.map fun reservation =>
        ⟨g.name, event, reservation, fallback⟩) := by
  rw [Group.serve, Group.event, h]

end serve

/-- An event expression fails on fields of an absent caller only. -/
lemma WellFormed.execute_error {r : Router L} (hr : WellFormed r) {g : Group L}
    (hg : g = r.default ∨ g ∈ r.groups) {request : Request} {e : Template.Error}
    (h : g.eventExpression.execute request = .error e) :
    (∃ field, e = .nilField field) ∧ request.identity = none := by
  obtain ⟨source, hcompile⟩ := hr.compiled g hg
  have hyields := Template.execute_yields hcompile request
  rw [h] at hyields
  obtain ⟨hnone, field, -, hfield⟩ := hyields
  exact ⟨⟨field, hfield⟩, hnone⟩

/-! ## Limiters over a shared store -/

section shared

variable {timeout : Option Duration} {r : Router Window.Limiter} {g : Group Window.Limiter}
  {event : String}

lemma Built.timeout_eq (hr : Built (Setup.windowLimiter service timeout) c r)
    (hg : g = r.default ∨ g ∈ r.groups) : g.limiter.timeout = timeout := by
  rcases hg with rfl | hg
  · rw [hr.default_limiter]
    rfl
  · obtain ⟨p, -, hlimiter⟩ := hr.limiter_eq g hg
    rw [hlimiter]
    rfl

/-- The increment that a group asks for has the key of the budget and the interval that the
configuration gives the group. -/
lemma Built.ask_eq (hr : Built (Setup.windowLimiter service timeout) c r)
    (hg : g = r.default ∨ g ∈ r.groups) (hevent : event ≠ "") :
    (g = r.default ∧
      g.limiter.ask event = ⟨service ++ ":rate:default:" ++ event, c.default.interval⟩) ∨
      (g ∈ r.groups ∧ ∃ config ∈ c.groups, config.name = g.name ∧ g.limiter.ask event =
        ⟨service ++ ":rate:g:" ++ g.name ++ ":" ++ event, config.params.interval⟩) := by
  have hkey := hr.key_ask hg event
  have hsplit : g.limiter.ask event =
    ⟨(g.limiter.ask event).key, g.limiter.interval⟩ := rfl
  rw [hsplit, hkey]
  rcases hg with rfl | hg
  · refine .inl ⟨rfl, ?_⟩
    rw [Budget.key_of_default hr.default_name hevent, hr.default_limiter]
    rfl
  · obtain ⟨p, hp, hlimiter⟩ := hr.limiter_eq g hg
    have hname : g.name ≠ Config.defaultName := (isDefault_eq_false_iff.1 (hr.not_default g hg)).2
    refine .inr ⟨hg, ⟨g.name, p⟩, hp, rfl, ?_⟩
    rw [Budget.key_of_named hname hevent, hlimiter]
    simp only [String.append_assoc]
    rfl

end shared

/-! ## Decisions over any store -/

/-- The answer to a request by how the round trip to the store ended: a decision for each count,
the fault of the store, or that of the deadline if there is one. -/
def answer (decision : Window.Count → Decision) (timeout : Option Duration) :
    Attempt → Except Failure Decision
  | .counted count => .ok (decision count)
  | .failed e => .error (.error e)
  | .stalled => .error (timeout.elim .unanswered fun t => .error (.deadlineExceeded t))

lemma map_conclude (l : Window.Limiter) (d : Reservation → Decision) (attempt : Attempt) :
    (l.conclude attempt).map d = answer (fun count => d (l.judge count)) l.timeout attempt := by
  cases attempt with
  | counted count => rfl
  | failed e => rfl
  | stalled =>
    rw [Window.Limiter.conclude, answer]
    cases l.timeout <;> rfl

/-- If the store fails with its own kind of faults only, so do answers. -/
lemma infrastructure_of_answer {decision : Window.Count → Decision} {timeout : Option Duration}
    {attempt : Attempt} {e : Error} (h : answer decision timeout attempt = .error (.error e))
    (hstore : ∀ e, attempt = .failed e → e.isInfrastructure = true) :
    e.isInfrastructure = true := by
  cases attempt with
  | counted count => exact absurd h (by simp [answer])
  | failed own =>
    obtain rfl := Failure.error.inj (Except.error.inj h)
    exact hstore own rfl
  | stalled =>
    cases timeout with
    | none => exact absurd (Except.error.inj h) (by simp)
    | some t =>
      obtain rfl := Failure.error.inj (Except.error.inj h)
      rfl

/-- **A decision asks for one increment or for none.**  In every router that is set up over a
shared store, whatever the store does: a request whose event expression applies in the group that
it resolves to has the store asked once, for the key of the group and the event, which is not
empty, and for the interval of the group; the answer is the limiter's verdict on the count, the
fault of the store or that of the deadline.  If the event expression does not apply, the request
has no caller, the store is not asked, and the answer is the fault of the expression.  Stores are
to fail with faults of their own family; then all other faults of decisions are of that family, and
no decision gives back a fault of the configuration. -/
theorem decide_asks_at_most_once {r : Router Window.Limiter}
    (h : Setup.shared service settings = .ok r) :
    ∃ c, Setup.configuration settings = .ok c ∧ (c.groups.map (·.name)).Nodup ∧
      ∀ {σ : Type} (store : σ → Ask → σ × Attempt) (request : Request) (stats : Stats) (s : σ)
        (asked : List Ask),
        let decided := { r with stats }.decide (Window.Limiter.reserveFrom (logging store)) request
          (s, asked)
        (∃ group fallback, r.Resolves request group fallback ∧
          match group.eventExpression.execute request with
          | .error fault =>
            (∃ field, fault = .nilField field) ∧ request.identity = none ∧
              decided.2 = ((s, asked), .error (.error (.evaluate fault)))
          | .ok text =>
            let event := if Text.trimmed text = "" then "@anonymous" else Text.trimmed text
            event ≠ "" ∧ ∃ ask : Ask,
              ((group = r.default ∧
                  ask = ⟨service ++ ":rate:default:" ++ event, c.default.interval⟩) ∨
                (group ∈ r.groups ∧ ∃ config ∈ c.groups, config.name = group.name ∧
                  ask = ⟨service ++ ":rate:g:" ++ group.name ++ ":" ++ event,
                    config.params.interval⟩)) ∧
              decided.2 =
                (((store s ask).1, ask :: asked),
                  answer (fun count => ⟨group.name, event, group.limiter.judge count, fallback⟩)
                    c.storeTimeout (store s ask).2)) ∧
        (Window.OwnFaults store → ∀ e, decided.2.2 = .error (.error e) →
            ((∃ field, e = .evaluate (.nilField field)) ∨ e.isInfrastructure = true) ∧
              e.isConfig = false ∧ e.isDisabled = false) := by
  obtain ⟨c, hc, hrouter⟩ := bind_eq_ok_iff.1 h
  have hr := built_ofConfig hrouter
  refine ⟨c, hc, names_nodup_of_ofConfig hrouter, ?_⟩
  intro σ store request stats s asked decided
  have hgroup := select_mem r request
  have hdecided : decided.2 = (r.select request).1.serve (r.select request).2
      ⟨request, Window.Limiter.reserveFrom (logging store)⟩ (s, asked) :=
    congrArg Prod.snd (decide_eq { r with stats } ⟨request, _⟩ (s, asked))
  -- which faults there are is read off the two ways in which a request is settled
  refine (and_iff_left_of_imp fun hsettled hstore e he => ?_).2 ?_
  · obtain ⟨group, fallback, -, hanswer⟩ := hsettled
    split at hanswer
    · obtain ⟨⟨field, rfl⟩, -, hfault⟩ := hanswer
      rw [hfault] at he
      obtain rfl := Failure.error.inj (Except.error.inj he)
      exact ⟨.inl ⟨field, rfl⟩, rfl, rfl⟩
    · obtain ⟨-, ask, -, hfault⟩ := hanswer
      rw [hfault] at he
      have hinfrastructure : e.isInfrastructure = true :=
        infrastructure_of_answer he (hstore s ask)
      exact ⟨.inr hinfrastructure, Error.families_of_infrastructure hinfrastructure⟩
  · refine ⟨_, _, resolves_select r request, ?_⟩
    split
    · rename_i fault hfault
      obtain ⟨hfield, hcaller⟩ := hr.toWellFormed.execute_error hgroup hfault
      exact ⟨hfield, hcaller, hdecided.trans (Group.serve_of_error hfault)⟩
    · rename_i text htext
      intro event
      have happlies : (r.select request).1.event request = .ok event := by
        rw [Group.event, htext]
        rfl
      have hevent : event ≠ "" := event_ne_empty happlies
      refine ⟨hevent, _, hr.ask_eq hgroup hevent, ?_⟩
      rw [hdecided, Group.serve_of_ok htext, ← hr.timeout_eq hgroup]
      exact Prod.ext rfl (map_conclude _ _ _)

/-- Settings with a deadline for the store and the group `api` for the path `/x`, whose events are
the values of the header `E`. -/
def boundedWaits : Settings :=
  let group : Settings := .table none [("name", .leaf none (.text "api")),
    ("interval", .leaf none (.text "2s")),
    ("event_expression", .leaf none (.text "\x7b\x7b.Header.E\x7d\x7d"))]
  let rule : Settings := .table none
    [("api_pattern", .leaf none (.text "/x")), ("group_expression", .leaf none (.text "api"))]
  let auth : Settings := .table none [("enable", .leaf none (.bool true)),
    ("groups", .list none [group]), ("match", .list none [rule]),
    ("store_timeout", .leaf none (.text "50ms"))]
  .table none [("ratelimits", .table none [("auth", auth)])]

/-- A blank event, and a store that counts every increment but never answers the first one and
fails with all others. -/
theorem decide_asks_a_stalled_store :
    let store (counted : Nat) (_ : Ask) :=
      (counted + 1, if counted = 0 then Attempt.stalled else .failed (.io "broken pipe"))
    let request := (Request.make "GET" "/x").withHeader "E" " "
    let e := Error.deadlineExceeded ⟨50000000⟩
    ∃ r, Setup.shared "svc" boundedWaits = .ok r ∧
      (r.decide (Window.Limiter.reserveFrom (logging store)) request (0, [])).2 =
        ((1, [⟨"svc:rate:g:api:@anonymous", .ofSeconds 2⟩]), .error (.error e)) ∧
      e.isConfig = false ∧ e.isDisabled = false := by
  intro store request e
  have hrun : (Setup.shared "svc" boundedWaits).map (fun r =>
        (r.decide (Window.Limiter.reserveFrom (logging store)) request (0, [])).2) =
      .ok ((1, [⟨"svc:rate:g:api:@anonymous", .ofSeconds 2⟩]), .error (.error e)) := by
    decide +kernel
  obtain ⟨r, hr, hdecided⟩ := map_eq_ok_iff.1 hrun
  have hstore : Window.OwnFaults store := by
    intro counted ask fault hfailed
    simp only [store] at hfailed
    split at hfailed
    · exact absurd hfailed (by simp)
    · obtain rfl := Attempt.failed.inj hfailed
      rfl
  obtain ⟨c, -, -, hdecisions⟩ := decide_asks_at_most_once hr
  have hfamilies := (hdecisions store request r.stats 0 []).2 hstore e (by rw [hdecided])
  exact ⟨r, hr, hdecided, hfamilies.2⟩

end Router

end Admission
