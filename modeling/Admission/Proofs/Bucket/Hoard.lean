/-
# Dropping buckets does not show

A hoard keeps the bucket of every event for ever.  A table that drops full buckets and makes them
anew answers every reservation as a hoard does (`answers_eq_hoard`): the bucket that the hoard
still has is full, and so is the bucket that the table makes.  The hoard must be asked whether its
buckets are full whenever the table is pruned, because asking refills a bucket, and in how many
steps a bucket is refilled can show in the last digits of what it holds.
-/
import Admission.Proofs.Bucket.Level
import Admission.Proofs.Bucket.Runs
import Mathlib.Logic.Function.Basic

namespace Admission.Bucket

open Table (Step)

/-- Buckets that are never dropped. -/
structure Hoard where
  /-- What the buckets have in common. -/
  plan : Plan
  /-- The bucket of each event that has been used. -/
  bucket? : String → Option Bucket

namespace Hoard

/-- No bucket has been used yet. -/
def empty (quota : UInt64) (interval : Duration) : Hoard :=
  ⟨.make quota interval, fun _ => none⟩

/-- The bucket of an event; it starts full. -/
def bucket (h : Hoard) (event : String) : Bucket :=
  (h.bucket? event).getD (full h.plan)

/-- Asks for a token of an event. -/
def reserve (h : Hoard) (event : String) (now : Instant) : Hoard × Option Reservation :=
  let reserved := (h.bucket event).reserve h.plan now
  ({ h with bucket? := Function.update h.bucket? event (some reserved.1) }, reserved.2)

/-- Asks all buckets that have been used whether they are full.  This refills them, and whatever
the answer is, they stay. -/
def inspect (h : Hoard) (now : Instant) : Hoard :=
  { h with bucket? := fun event => (h.bucket? event).map (·.refill h.plan now) }

/-- What the reservations of a run answer, each with its event, if buckets are only asked whether
they are full where the run prunes. -/
def answers (h : Hoard) : List Step → List (String × Option Reservation)
  | [] => []
  | .reserve event now :: steps =>
    (event, (h.reserve event now).2) :: answers (h.reserve event now).1 steps
  | .prune now :: steps => answers (h.inspect now) steps

lemma bucket?_reserve (h : Hoard) (event : String) (now : Instant) (other : String) :
    (h.reserve event now).1.bucket? other =
      if other = event then some ((h.bucket event).reserve h.plan now).1 else h.bucket? other :=
  Function.update_apply _ _ _ _

lemma reserve_snd (h : Hoard) (event : String) (now : Instant) :
    (h.reserve event now).2 = ((h.bucket event).reserve h.plan now).2 := by
  rw [reserve]

lemma plan_reserve (h : Hoard) (event : String) (now : Instant) :
    (h.reserve event now).1.plan = h.plan := by
  rw [reserve]

/-! ## Events do not meet -/

variable {h h' : Hoard} {event : String}

/-- What is answered for an event depends only on its own reservations and on the prunes. -/
lemma filter_answers (hplan : h.plan = h'.plan) (hbucket : h.bucket? event = h'.bucket? event)
    (steps : List Step) :
    (h.answers steps).filter (·.1 = event) = h'.answers (steps.filter (Step.concerns event)) := by
  induction steps generalizing h h' with
  | nil => rfl
  | cons step steps ih =>
    cases step with
    | reserve other now =>
      by_cases hother : other = event
      · subst hother
        have hsame : h.bucket other = h'.bucket other := by rw [bucket, bucket, hbucket, hplan]
        rw [List.filter_cons_of_pos (by simp [Step.concerns]), answers, answers,
          List.filter_cons_of_pos (by simp), reserve_snd, reserve_snd, hsame, hplan]
        refine congrArg _ (ih hplan ?_)
        rw [bucket?_reserve, bucket?_reserve, if_pos rfl, if_pos rfl, hsame, hplan]
      · rw [List.filter_cons_of_neg (by simpa [Step.concerns] using hother), answers,
          List.filter_cons_of_neg (by simpa using hother)]
        refine ih hplan ?_
        rw [bucket?_reserve, if_neg (Ne.symm hother), hbucket]
    | prune now =>
      rw [List.filter_cons_of_pos rfl, answers, answers]
      exact ih hplan (by simp only [inspect, hbucket, hplan])

end Hoard

/-! ## What a table and a hoard have in common -/

/-- At the instant `now` every bucket of the table is the hoard's, and every bucket of the hoard
that the table does not have is full. -/
structure Matches (t : Table) (h : Hoard) (now : Instant) : Prop where
  plan_eq : t.plan = h.plan
  sound : ∀ event b, h.bucket? event = some b → b.Sound h.plan now
  bucket?_eq : ∀ event, t.buckets[event]? = h.bucket? event ∨
    t.buckets[event]? = none ∧
      ∃ last : Instant, last.nanos ≤ now.nanos ∧ h.bucket? event = some ⟨h.plan.capacity, some last⟩

variable {t : Table} {h : Hoard} {now : Instant}

lemma matches_empty (quota : UInt64) (interval : Duration) (threshold : Nat) (now : Instant) :
    Matches (.empty quota interval threshold) (.empty quota interval) now :=
  ⟨rfl, fun _ _ hb => absurd hb (by simp [Hoard.empty]), fun _ => .inl Std.HashMap.getElem?_empty⟩

lemma Matches.later {later : Instant} (hm : Matches t h now) (hle : now.nanos ≤ later.nanos) :
    Matches t h later := by
  refine ⟨hm.plan_eq, fun event b hb => (hm.sound event b hb).later hle, fun event => ?_⟩
  rcases hm.bucket?_eq event with hsame | ⟨hnone, last, hlast, hfull⟩
  · exact .inl hsame
  · exact .inr ⟨hnone, last, Nat.le_trans hlast hle, hfull⟩

/-- A bucket that was dropped and one that never was reserve alike. -/
lemma Matches.reserve_eq (hp : Binary64.Exact h.plan.capacity.units) (hm : Matches t h now)
    (event : String) :
    (t.bucket event).reserve t.plan now = (h.bucket event).reserve h.plan now := by
  rw [hm.plan_eq]
  refine reserve_congr ?_
  rw [Table.bucket, Hoard.bucket, Std.HashMap.getD_eq_getD_getElem?, hm.plan_eq]
  rcases hm.bucket?_eq event with hsame | ⟨hnone, last, hlast, hfull⟩
  · rw [hsame]
  · -- the table makes a new bucket, and refilling tells it from the full one no more
    rw [hnone, hfull, Option.getD_none, Option.getD_some, refill_capacity hp hlast]
    rfl

lemma Hoard.sound_bucket (hs : ∀ event b, h.bucket? event = some b → b.Sound h.plan now)
    (event : String) : (h.bucket event).Sound h.plan now := by
  rw [Hoard.bucket]
  cases hb : h.bucket? event with
  | none => exact sound_full _ _
  | some b => exact hs event b hb

/-- A reservation, before it prunes, changes the same bucket in the same way on both sides. -/
lemma Matches.charged (hp : Binary64.Exact h.plan.capacity.units) (hm : Matches t h now)
    (event : String) : Matches (t.charged event now) (h.reserve event now).1 now := by
  have hreserve := hm.reserve_eq hp event
  refine ⟨hm.plan_eq, fun other b hb => ?_, fun other => ?_⟩
  · rw [Hoard.plan_reserve]
    rw [Hoard.bucket?_reserve] at hb
    split at hb
    · rw [← Option.some.inj hb]
      exact (Hoard.sound_bucket hm.sound event).reserve hp
    · exact hm.sound other b hb
  · rw [Table.getElem?_charged, Hoard.bucket?_reserve]
    by_cases hother : event = other
    · rw [if_pos hother, if_pos hother.symm, hreserve]
      exact .inl rfl
    · rw [if_neg hother, if_neg (Ne.symm hother)]
      exact hm.bucket?_eq other

/-- A prune refills the buckets on both sides, and those that the table drops are full. -/
lemma Matches.prune (hp : Binary64.Exact h.plan.capacity.units) (hm : Matches t h now) :
    Matches (t.prune now) (h.inspect now) now := by
  refine ⟨hm.plan_eq, fun event b hb => ?_, fun event => ?_⟩
  · obtain ⟨old, hold, rfl⟩ := Option.map_eq_some_iff.1 hb
    exact (hm.sound event old hold).refill
  · rw [Table.getElem?_prune, hm.plan_eq, Hoard.inspect]
    dsimp only
    rcases hm.bucket?_eq event with hsame | ⟨hnone, last, hlast, hfull⟩
    · rw [hsame]
      cases hb : h.bucket? event with
      | none => exact .inl rfl
      | some b =>
        rw [Option.bind_some, Option.map_some, Table.spent?]
        split
        · rename_i hfull
          exact .inr ⟨rfl, now, Nat.le_refl _,
            congrArg some ((hm.sound event b hb).refill_of_isFull hfull)⟩
        · exact .inl rfl
    · rw [hnone, hfull, Option.map_some, refill_capacity hp hlast]
      exact .inr ⟨rfl, now, Nat.le_refl _, rfl⟩

/-! ## Runs -/

/-- Over a whole run the table answers as the hoard does, if the hoard is inspected wherever the
table is pruned. -/
lemma Matches.answers_eq {steps : List Step} (hp : Binary64.Exact h.plan.capacity.units)
    (hm : Matches t h now) (hle : ∀ step ∈ steps, now.nanos ≤ step.now.nanos)
    (htime : Table.InOrder steps) : t.answers steps = h.answers (t.spelledOut steps) := by
  induction steps generalizing t h now with
  | nil => rfl
  | cons step steps ih =>
    rw [Table.InOrder, List.pairwise_cons] at htime
    have hnow := hm.later (hle step List.mem_cons_self)
    cases step with
    | reserve event now =>
      -- the answer is the same, and so is whether a prune follows, in the table and spelled out
      have hcharged := hnow.charged hp event
      have hreserve := hnow.reserve_eq hp event
      simp only [Step.now] at hcharged hreserve htime
      rw [Table.answers, Table.spelledOut, Hoard.answers, Table.reserve_snd, Hoard.reserve_snd,
        hreserve]
      refine congrArg _ ?_
      rw [Table.reserve_fst]
      by_cases hprunes : t.prunesAfter event now = true
      · rw [if_pos hprunes, if_pos hprunes]
        exact ih hp (hcharged.prune hp) htime.1 htime.2
      · rw [if_neg hprunes, if_neg hprunes]
        exact ih hp hcharged htime.1 htime.2
    | prune now => exact ih hp (hnow.prune hp) htime.1 htime.2

/-- **Dropping buckets does not show.**  In every run whose instants never go back, whatever the
quota, the interval and the threshold, a table gives every reservation that a hoard gives, one that
keeps the bucket of every event for ever and is only asked, where the table prunes, whether its
buckets are full.  The reservations for one event are those of a hoard in which no other event has
been used. -/
theorem answers_eq_hoard {quota : UInt64} {interval : Duration} {threshold : Nat}
    {steps : List Step} (htime : Table.InOrder steps) :
    let t := Table.empty quota interval threshold
    let h := Hoard.empty quota interval
    t.answers steps = h.answers (t.spelledOut steps) ∧
      ∀ event, (t.answers steps).filter (·.1 = event) =
        h.answers ((t.spelledOut steps).filter (Step.concerns event)) := by
  intro t h
  have hanswers : t.answers steps = h.answers (t.spelledOut steps) :=
    (matches_empty quota interval threshold ⟨0⟩).answers_eq (exact_capacity quota interval)
      (fun _ _ => Nat.zero_le _) htime
  refine ⟨hanswers, fun event => ?_⟩
  rw [hanswers]
  exact Hoard.filter_answers rfl rfl _

/-- A bucket that fills up to the last digit, is dropped when another event makes the table too
large, and is made anew at the same instant. -/
theorem answers_after_drop :
    let steps : List Step := [.reserve "a" ⟨0⟩, .reserve "b" ⟨60000000000⟩,
      .reserve "a" ⟨60000000000⟩]
    let spelled : List Step := [.reserve "a" ⟨0⟩, .reserve "b" ⟨60000000000⟩,
      .prune ⟨60000000000⟩, .reserve "a" ⟨60000000000⟩]
    (Table.empty 2 (.ofSeconds 60) 1).spelledOut steps = spelled ∧
      (Table.empty 2 (.ofSeconds 60) 1).answers steps =
        [("a", some (.grant 1)), ("b", some (.grant 1)), ("a", some (.grant 1))] := by
  intro steps spelled
  let t := Table.empty 2 (.ofSeconds 60) 1
  let one := t.charged "a" ⟨0⟩
  let two := one.charged "b" ⟨60000000000⟩
  have hempty : ∀ event, t.buckets[event]? = none := fun _ => Std.HashMap.getElem?_empty
  have hnew : one.buckets["b"]? = none := by
    rw [Table.getElem?_charged, if_neg (by decide), hempty]
  have hone : one.size = 1 := Table.size_charged_of_new t "a" _ (hempty "a")
  have htwo : two.size = 2 := by rw [Table.size_charged_of_new one "b" _ hnew, hone]
  -- the first reservation leaves the table small enough, and the second one does not
  have hfirst : t.prunesAfter "a" ⟨0⟩ = false := by
    rw [← Bool.not_eq_true, Table.prunesAfter_iff]
    exact fun h => absurd (hone ▸ h.2) (by decide)
  have hsecond : one.prunesAfter "b" ⟨60000000000⟩ = true := by
    refine (Table.prunesAfter_iff _ _ _).2 ⟨?_, htwo ▸ by decide⟩
    rw [Table.bucket, Std.HashMap.getD_eq_getD_getElem?, hnew]
    decide +kernel
  have hthird : (two.prune ⟨60000000000⟩).prunesAfter "a" ⟨60000000000⟩ = false :=
    Table.prunesAfter_prune two _ _ Nat.one_pos (htwo ▸ by decide) _
  have hnext : (t.reserve "a" ⟨0⟩).1 = one := by rw [Table.reserve_fst, hfirst]; rfl
  have hpruned : (one.reserve "b" ⟨60000000000⟩).1 = two.prune ⟨60000000000⟩ := by
    rw [Table.reserve_fst, hsecond]; rfl
  have hspelled : t.spelledOut steps = spelled := by
    simp only [steps, spelled, Table.spelledOut, hfirst, hnext, hsecond, hpruned, hthird,
      Bool.false_eq_true, if_false, if_true, List.nil_append, List.cons_append]
  refine ⟨hspelled, ?_⟩
  have htime : Table.InOrder steps := by decide
  have hanswers : t.answers steps = (Hoard.empty 2 (.ofSeconds 60)).answers (t.spelledOut steps) :=
    (answers_eq_hoard htime).1
  show t.answers steps = _
  rw [hanswers, hspelled]
  decide +kernel

end Admission.Bucket
