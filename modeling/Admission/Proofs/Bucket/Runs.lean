/-
# Runs of a table of buckets

What happens to a table is a sequence of reservations and of prunes.  A reservation that makes the
table too large prunes it as well.  `spelledOut` writes such prunes into the run as steps of their
own, so that a run can be followed without knowing how many buckets the table holds.
-/
import Admission.Bucket.Table
import Mathlib.Tactic.Common

namespace Admission.Bucket.Table

/-- Something that happens to a table. -/
inductive Step where
  /-- A token of an event is asked for at an instant. -/
  | reserve (event : String) (now : Instant)
  /-- The table is pruned at an instant. -/
  | prune (now : Instant)
deriving DecidableEq

namespace Step

/-- The instant of a step. -/
def now : Step → Instant
  | .reserve _ now => now
  | .prune now => now

/-- Whether a step can have to do with the bucket of an event. -/
def concerns (event : String) : Step → Bool
  | .reserve other _ => other == event
  | .prune _ => true

end Step

/-- The instants of the steps never go back. -/
def InOrder (steps : List Step) : Prop :=
  steps.Pairwise fun a b => a.now.nanos ≤ b.now.nanos

instance (steps : List Step) : Decidable (InOrder steps) :=
  inferInstanceAs (Decidable (List.Pairwise _ _))

/-! ## Steps -/

variable (t : Table) (event : String) (now : Instant)

/-- The table that a reservation leaves before it prunes. -/
def charged : Table :=
  { t with buckets := t.buckets.insert event ((t.bucket event).reserve t.plan now).1 }

/-- Whether a reservation prunes the table as well. -/
def prunesAfter : Bool :=
  ((t.bucket event).reserve t.plan now).2.isSome &&
    decide ((t.charged event now).nextPrune < (t.charged event now).size)

lemma reserve_fst :
    (t.reserve event now).1 =
      if t.prunesAfter event now then (t.charged event now).prune now else t.charged event now := by
  rw [reserve, prunesAfter, charged]
  obtain ⟨b, outcome⟩ := (t.bucket event).reserve t.plan now
  cases outcome with
  | none => rfl
  | some r =>
    rw [Option.isSome_some, Bool.true_and]
    simp only [decide_eq_true_eq]
    rfl

lemma reserve_snd : (t.reserve event now).2 = ((t.bucket event).reserve t.plan now).2 := by
  rw [reserve]

lemma getElem?_charged (other : String) :
    (t.charged event now).buckets[other]? =
      if event = other then some ((t.bucket event).reserve t.plan now).1
      else t.buckets[other]? := by
  simp only [charged, Std.HashMap.getElem?_insert, beq_iff_eq]

lemma getElem?_prune (other : String) :
    (t.prune now).buckets[other]? = t.buckets[other]?.bind (spent? t.plan now) :=
  Std.HashMap.getElem?_filterMap'

/-! ## The size of a table -/

lemma prunesAfter_iff :
    t.prunesAfter event now = true ↔
      ((t.bucket event).reserve t.plan now).2.isSome = true ∧
        t.nextPrune < (t.charged event now).size := by
  simp only [prunesAfter, Bool.and_eq_true, decide_eq_true_eq]
  rfl

lemma size_charged_of_new (hnew : t.buckets[event]? = none) :
    (t.charged event now).size = t.size + 1 := by
  have hmem : event ∉ t.buckets := by
    rw [Std.HashMap.mem_iff_isSome_getElem?, hnew]
    exact Bool.false_ne_true
  exact Std.HashMap.size_insert.trans (if_neg hmem)

lemma size_charged_le : (t.charged event now).size ≤ t.size + 1 :=
  Std.HashMap.size_insert_le

lemma size_prune_le : (t.prune now).size ≤ t.size :=
  Std.HashMap.size_filterMap_le_size

lemma nextPrune_prune :
    (t.prune now).nextPrune = max t.threshold (min (2 * (t.prune now).size) maxCount) :=
  rfl

/-- A reservation right after a prune prunes no more. -/
lemma prunesAfter_prune (hthreshold : 0 < t.threshold) (hsize : t.size < maxCount)
    (later : Instant) : (t.prune now).prunesAfter event later = false := by
  rw [← Bool.not_eq_true, prunesAfter_iff, nextPrune_prune]
  have hle := size_prune_le t now
  have hcharged := size_charged_le (t.prune now) event later
  omega

/-! ## Runs -/

/-- What the reservations of a run answer, each with its event. -/
def answers (t : Table) : List Step → List (String × Option Reservation)
  | [] => []
  | .reserve event now :: steps =>
    (event, (t.reserve event now).2) :: answers (t.reserve event now).1 steps
  | .prune now :: steps => answers (t.prune now) steps

/-- A run with all its prunes, also those that reservations make. -/
def spelledOut (t : Table) : List Step → List Step
  | [] => []
  | .reserve event now :: steps =>
    .reserve event now ::
      ((if t.prunesAfter event now then [.prune now] else []) ++
        spelledOut (t.reserve event now).1 steps)
  | .prune now :: steps => .prune now :: spelledOut (t.prune now) steps

end Admission.Bucket.Table
