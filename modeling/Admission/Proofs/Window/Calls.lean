/-
# Runs of limiters over one store

Limiters call a shared store over a connection that may fail, and the store may be swept between
their calls.  Only the calls that get through the connection are steps of the store
(`store_run`), so what has been proved of runs of a store holds of runs of limiters.
-/
import Admission.Window.Limiter
import Admission.Proofs.Window.Counters

namespace Admission.Window

open Store (Step)

/-! ## Calls -/

/-- Something that happens at a shared store. -/
inductive Call where
  /-- A limiter asks for a token of an event, over a connection in this state and at this
  time. -/
  | reserve (l : Limiter) (event : String) (link : Link) (clock : Clock)
  /-- The store is swept at this time. -/
  | sweep (clock : Clock)

namespace Call

/-- The time of a call. -/
def clock : Call → Clock
  | .reserve _ _ _ clock => clock
  | .sweep clock => clock

/-- The step of the store that a call is, if it reaches the store. -/
def step? : Call → Option Step
  | .reserve l event .up clock => some (.increment (l.ask event).key l.interval clock)
  | .reserve _ _ (.failing _) _ => none
  | .reserve _ _ .stalled _ => none
  | .sweep clock => some (.sweep clock.now)

lemma now_of_step? {call : Call} {step : Step} (h : call.step? = some step) :
    step.now = call.clock.now := by
  cases call with
  | reserve l event link clock => cases link <;> cases h; rfl
  | sweep clock =>
    cases h
    rfl

/-- The increments of a run are its calls that reach the store. -/
lemma increment_mem_filterMap_iff {calls : List Call} {key : String} {window : Duration}
    {clock : Clock} :
    .increment key window clock ∈ calls.filterMap step? ↔
      ∃ l event, .reserve l event .up clock ∈ calls ∧ (l.ask event).key = key ∧
        l.interval = window := by
  rw [List.mem_filterMap]
  constructor
  · rintro ⟨call, hcall, hstep⟩
    cases call with
    | reserve l event link clock' =>
      cases link with
      | up =>
        simp only [step?, Option.some.injEq, Step.increment.injEq] at hstep
        obtain ⟨hkey, hwindow, rfl⟩ := hstep
        exact ⟨l, event, hcall, hkey, hwindow⟩
      | failing e => simp [step?] at hstep
      | stalled => simp [step?] at hstep
    | sweep clock' => simp [step?] at hstep
  · rintro ⟨l, event, hcall, rfl, rfl⟩
    exact ⟨_, hcall, rfl⟩

end Call

namespace Shared

/-- A shared store without counters. -/
def fresh : Shared := ⟨.empty, .up, ⟨0, ⟨0⟩⟩, []⟩

/-- A shared store at a time, with its connection in this state. -/
def onward (s : Shared) (link : Link) (clock : Clock) : Shared :=
  { s with link, clock }

/-- The shared store after a call. -/
def next (s : Shared) : Call → Shared
  | .reserve l event link clock => (l.reserve event (s.onward link clock)).1
  | .sweep clock => { s with clock, store := s.store.sweep clock.now }

/-- The shared store after a run. -/
def run (s : Shared) (calls : List Call) : Shared :=
  calls.foldl next s

end Shared

/-! ## What reaches the store -/

/-- A call that does not reach the store leaves it alone, and any other one is a step of it. -/
lemma store_next (s : Shared) (call : Call) :
    (s.next call).store = (call.step?.elim s.store s.store.next) := by
  cases call with
  | reserve l event link clock => cases link <;> rfl
  | sweep clock => rfl

lemma store_run (s : Shared) (calls : List Call) :
    (s.run calls).store = s.store.run (calls.filterMap Call.step?) := by
  induction calls generalizing s with
  | nil => rfl
  | cons call calls ih =>
    have hnext := store_next s call
    show ((s.next call).run calls).store = _
    rw [ih, hnext]
    cases hstep : call.step? with
    | none => rw [List.filterMap_cons_none hstep, Option.elim]
    | some step =>
      rw [List.filterMap_cons_some hstep, Option.elim]
      rfl

/-- A call that reaches the store is answered by the limiter's verdict on the store's count. -/
lemma reserve_up (l : Limiter) (event : String) (s : Shared) (clock : Clock) :
    (l.reserve event (s.onward .up clock)).2 =
      .ok (l.judge (s.store.increment (l.ask event).key l.interval clock).2) :=
  rfl

/-- The times of calls never go back. -/
def InOrder (calls : List Call) : Prop :=
  calls.Pairwise fun a b => a.clock.now.nanos ≤ b.clock.now.nanos

instance (calls : List Call) : Decidable (InOrder calls) :=
  inferInstanceAs (Decidable (List.Pairwise _ _))

lemma timely_calls {calls : List Call} (h : InOrder calls) :
    Timely (calls.filterMap Call.step?) :=
  timely_filterMap (fun _ _ hstep => Call.now_of_step? hstep) h

end Admission.Window
