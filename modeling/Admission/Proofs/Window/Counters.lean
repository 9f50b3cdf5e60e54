/-
# Runs of a store

What happens to a store is a sequence of increments and of sweeps.  This file defines such runs
and says what one step does to the counter of a key in a window.  Counters are kept under names;
different pairs of a key and a window have different names although keys may hold anything
(`counterKey_inj`).
-/
import Admission.Window.Store
import Admission.Proofs.Text.Separator
import Admission.Proofs.Window.Position
import Std.Data.String.ToNat

namespace Admission.Window

/-! ## The names of counters -/

lemma toList_counterKey (key : String) (epoch : UInt64) :
    (Store.counterKey key epoch).toList = key.toList ++ ':' :: (Nat.repr epoch.toNat).toList := by
  simp [Store.counterKey, toString]

lemma colon_notMem_repr (n : Nat) : ':' ∉ (Nat.repr n).toList := by
  rw [Nat.toList_repr]
  intro h
  have : ':'.isDigit = true := Nat.isDigit_of_mem_toDigits (by decide) (by decide) h
  exact absurd this (by decide)

/-- A key and a window can be read off the name of their counter. -/
lemma counterKey_inj {key key' : String} {epoch epoch' : UInt64} :
    Store.counterKey key epoch = Store.counterKey key' epoch' ↔ key = key' ∧ epoch = epoch' := by
  rw [← String.toList_inj, toList_counterKey, toList_counterKey,
    Text.append_sep_inj (colon_notMem_repr _) (colon_notMem_repr _), String.toList_inj,
    String.toList_inj, Nat.repr_inj, UInt64.toNat_inj]

/-! ## Steps and runs -/

namespace Store

/-- Something that happens to a store. -/
inductive Step where
  /-- A key is counted. -/
  | increment (key : String) (window : Duration) (clock : Clock)
  /-- The store is swept. -/
  | sweep (now : Instant)

namespace Step

/-- When a step happens, on the monotonic clock. -/
def now : Step → Instant
  | .increment _ _ clock => clock.now
  | .sweep now => now

/-- Whether a step counts this key in this window. -/
def counts (key : String) (epoch : UInt64) : Step → Bool
  | .increment counted window clock =>
    counted == key && (position clock.wall window).epoch == epoch
  | .sweep _ => false

/-- The window of the step ends within 64 bits. -/
def InReach : Step → Prop
  | .increment _ window clock => Window.InReach clock.wall window
  | .sweep _ => True

lemma counts_eq_true_iff {key : String} {epoch : UInt64} {step : Step} :
    step.counts key epoch = true ↔
      ∃ window clock, step = .increment key window clock ∧
        (position clock.wall window).epoch = epoch := by
  cases step with
  | increment counted window clock =>
    simp only [counts, Bool.and_eq_true, beq_iff_eq, Step.increment.injEq]
    constructor
    · rintro ⟨rfl, h⟩
      exact ⟨window, clock, ⟨rfl, rfl, rfl⟩, h⟩
    · rintro ⟨_, _, ⟨rfl, rfl, rfl⟩, h⟩
      exact ⟨rfl, h⟩
  | sweep now => simp [counts]

end Step

/-- The store after a step. -/
def next (s : Store) : Step → Store
  | .increment key window clock => (s.increment key window clock).1
  | .sweep now => s.sweep now

/-- What a step answers; sweeps answer nothing. -/
def answer (s : Store) : Step → Option Count
  | .increment key window clock => some (s.increment key window clock).2
  | .sweep _ => none

/-- The store after a run. -/
def run (s : Store) (steps : List Step) : Store :=
  steps.foldl next s

lemma run_snoc (s : Store) (steps : List Step) (step : Step) :
    s.run (steps ++ [step]) = (s.run steps).next step :=
  List.foldl_append

end Store

/-- The monotonic clock never goes back in a run. -/
def Timely (steps : List Store.Step) : Prop :=
  steps.Pairwise fun a b => a.now.nanos ≤ b.now.nanos

/-- What happens in order makes its steps in order. -/
lemma timely_filterMap {α : Type} {step? : α → Option Store.Step} {now : α → Instant}
    {xs : List α} (hnow : ∀ a step, step? a = some step → step.now = now a)
    (h : xs.Pairwise fun a b => (now a).nanos ≤ (now b).nanos) :
    Timely (xs.filterMap step?) := by
  refine List.Pairwise.filterMap step? ?_ h
  intro a b hle step hstep step' hstep'
  rw [hnow a step hstep, hnow b step' hstep']
  exact hle

/-! ## Counters after a step -/

/-- The counter of a key in a window, if the store has one. -/
def Store.counter? (s : Store) (key : String) (epoch : UInt64) : Option Counter :=
  s.counters[Store.counterKey key epoch]?

lemma counter?_sweep (s : Store) (now : Instant) (key : String) (epoch : UInt64) :
    (s.sweep now).counter? key epoch =
      (s.counter? key epoch).filter fun c => c.expiresAt.isAfter now :=
  Std.HashMap.getElem?_filter'

/-- The store that an increment leaves before it sweeps. -/
def Store.counted (s : Store) (key : String) (window : Duration) (clock : Clock) : Store :=
  let place := position clock.wall window
  let counter := Store.bump (s.counter? key place.epoch) place.left clock.now
  ⟨s.counters.insert (Store.counterKey key place.epoch) counter, s.increments + 1⟩

lemma increment_fst (s : Store) (key : String) (window : Duration) (clock : Clock) :
    (s.increment key window clock).1 =
      if (s.increments + 1) % Store.sweepEvery = 0 then (s.counted key window clock).sweep clock.now
      else s.counted key window clock :=
  rfl

lemma increment_snd (s : Store) (key : String) (window : Duration) (clock : Clock) :
    (s.increment key window clock).2 =
      let place := position clock.wall window
      let counter := Store.bump (s.counter? key place.epoch) place.left clock.now
      ⟨counter.count, counter.expiresAt.since clock.now, place.epoch⟩ :=
  rfl

lemma getElem?_counted (s : Store) (key : String) (window : Duration) (clock : Clock)
    (name : String) :
    (s.counted key window clock).counters[name]? =
      if Store.counterKey key (position clock.wall window).epoch = name then
        some (Store.bump (s.counter? key (position clock.wall window).epoch)
          (position clock.wall window).left clock.now)
      else s.counters[name]? := by
  simp only [Store.counted, Std.HashMap.getElem?_insert, beq_iff_eq]

lemma counter?_counted (s : Store) (key : String) (window : Duration) (clock : Clock)
    (other : String) (epoch : UInt64) :
    (s.counted key window clock).counter? other epoch =
      if key = other ∧ (position clock.wall window).epoch = epoch then
        some (Store.bump (s.counter? key (position clock.wall window).epoch)
          (position clock.wall window).left clock.now)
      else s.counter? other epoch := by
  simp only [Store.counter?, getElem?_counted, counterKey_inj]

end Admission.Window
