/-
# How many counters a store holds

Only increments add counters, one at a time, so a store has at most as many more than before as
there were increments since (`size_run_le`).  The number of increments is kept in the store, and
whenever it has reached a multiple of `Store.sweepEvery` the counters that have expired are swept
out.  So they cannot pile up.

No step drops a counter whose deadline is still ahead, sweeps included, and an increment leaves such
a counter for its own window (`expired_counters_do_not_pile_up`).

A counter counts no further than the number of increments (`count_run_le`).  So no run that is short
enough to come about takes a count out of 64 bits.
-/
import Admission.Proofs.Window.Counters
import Mathlib.Data.List.Induction

namespace Admission.Window

open Store (Step)

/-- Whether a step is an increment. -/
def Store.Step.isIncrement : Step → Bool
  | .increment _ _ _ => true
  | .sweep _ => false

variable {s : Store} {key name : String} {window : Duration} {clock : Clock} {now : Instant}
  {c : Counter}

/-! ## Sweeps -/

lemma getElem?_sweep_eq_some_iff :
    (s.sweep now).counters[name]? = some c ↔
      s.counters[name]? = some c ∧ now.nanos < c.expiresAt.nanos := by
  have hfilter : (s.sweep now).counters[name]? =
      s.counters[name]?.filter fun c => c.expiresAt.isAfter now :=
    Std.HashMap.getElem?_filter'
  rw [hfilter, Option.filter_eq_some_iff, Instant.isAfter, decide_eq_true_iff]

lemma size_sweep_le (s : Store) (now : Instant) : (s.sweep now).size ≤ s.size :=
  Std.HashMap.size_filter_le_size

/-! ## Increments -/

lemma size_counted_le (s : Store) (key : String) (window : Duration) (clock : Clock) :
    (s.counted key window clock).size ≤ s.size + 1 :=
  Std.HashMap.size_insert_le

/-- A counter that has just counted has its deadline ahead, because time is left of every window. -/
lemma lt_expiresAt_bump (old : Option Counter) (wall : UInt64) (window : Duration)
    (now : Instant) :
    now.nanos < (Store.bump old (position wall window).left now).expiresAt.nanos := by
  have hnew : now.nanos < (now.after (position wall window).left).nanos :=
    Nat.lt_add_of_pos_right (left_pos wall window)
  cases old with
  | none => exact hnew
  | some c =>
    rw [Store.bump]
    split
    · rename_i hlive
      exact of_decide_eq_true hlive
    · exact hnew

/-- A counter whose deadline is ahead goes on counting. -/
lemma bump_of_live (left : Duration) (h : now.nanos < c.expiresAt.nanos) :
    Store.bump (some c) left now = ⟨c.count + 1, c.expiresAt⟩ := by
  rw [Store.bump, Instant.isAfter, if_pos (decide_eq_true h)]

/-- A counter whose deadline is ahead stays where an increment has left it, also if this sweeps. -/
lemma getElem?_increment_of_live (hc : (s.counted key window clock).counters[name]? = some c)
    (hlive : clock.now.nanos < c.expiresAt.nanos) :
    (s.next (.increment key window clock)).counters[name]? = some c := by
  rw [Store.next, increment_fst]
  split
  · exact getElem?_sweep_eq_some_iff.2 ⟨hc, hlive⟩
  · exact hc

/-! ## Steps -/

lemma increments_next (s : Store) (step : Step) :
    (s.next step).increments = s.increments + if step.isIncrement then 1 else 0 := by
  cases step with
  | increment key window clock =>
    rw [Store.next, increment_fst]
    split <;> rfl
  | sweep now => rfl

lemma size_next_le (s : Store) (step : Step) :
    (s.next step).size ≤ s.size + if step.isIncrement then 1 else 0 := by
  cases step with
  | increment key window clock =>
    have hcounted := size_counted_le s key window clock
    rw [Store.next, increment_fst]
    split
    · exact Nat.le_trans (size_sweep_le _ _) hcounted
    · exact hcounted
  | sweep now => exact size_sweep_le s now

/-- A step keeps every counter whose deadline is ahead, with that deadline. -/
lemma exists_counter_of_live {step : Step} (hc : s.counters[name]? = some c)
    (hlive : step.now.nanos < c.expiresAt.nanos) :
    ∃ c', (s.next step).counters[name]? = some c' ∧ c'.expiresAt = c.expiresAt ∧
      c.count ≤ c'.count := by
  cases step with
  | sweep now => exact ⟨c, getElem?_sweep_eq_some_iff.2 ⟨hc, hlive⟩, rfl, Nat.le_refl _⟩
  | increment key window clock =>
    have hahead : clock.now.nanos < c.expiresAt.nanos := hlive
    have hcounted : ∃ c', (s.counted key window clock).counters[name]? = some c' ∧
        c'.expiresAt = c.expiresAt ∧ c.count ≤ c'.count := by
      rw [getElem?_counted]
      split
      · rename_i hname
        have hold : s.counter? key (position clock.wall window).epoch = some c := by
          rw [Store.counter?, hname, hc]
        rw [hold, bump_of_live _ hahead]
        exact ⟨_, rfl, rfl, Nat.le_succ _⟩
      · exact ⟨c, hc, rfl, Nat.le_refl _⟩
    obtain ⟨c', hc', hdeadline, hcount⟩ := hcounted
    exact ⟨c', getElem?_increment_of_live hc' (hdeadline ▸ hahead), hdeadline, hcount⟩

/-- An increment leaves a counter for its window, and the deadline of this is ahead. -/
lemma exists_counter_increment (s : Store) (key : String) (window : Duration) (clock : Clock) :
    ∃ c, (s.next (.increment key window clock)).counter? key (position clock.wall window).epoch =
      some c ∧ clock.now.nanos < c.expiresAt.nanos := by
  have hlive := lt_expiresAt_bump (s.counter? key (position clock.wall window).epoch) clock.wall
    window clock.now
  have hcounted := getElem?_counted s key window clock
    (Store.counterKey key (position clock.wall window).epoch)
  rw [if_pos rfl] at hcounted
  exact ⟨_, getElem?_increment_of_live hcounted hlive, hlive⟩

/-! ## Runs -/

lemma increments_run (s : Store) (steps : List Step) :
    (s.run steps).increments = s.increments + steps.countP Step.isIncrement := by
  induction steps using List.reverseRecOn with
  | nil => rfl
  | append_singleton steps step ih =>
    rw [Store.run_snoc, increments_next, ih, List.countP_append, List.countP_singleton,
      Nat.add_assoc]

/-- Only increments make a store larger, each by one counter. -/
lemma size_run_le (s : Store) (steps : List Step) :
    (s.run steps).size ≤ s.size + steps.countP Step.isIncrement := by
  induction steps using List.reverseRecOn with
  | nil => exact Nat.le_refl _
  | append_singleton steps step ih =>
    have hnext := size_next_le (s.run steps) step
    rw [Store.run_snoc, List.countP_append, List.countP_singleton]
    omega

/-! ## Counts -/

lemma count_bump_le {old : Option Counter} {n : ℕ} (hold : ∀ c, old = some c → c.count ≤ n)
    (left : Duration) (now : Instant) : (Store.bump old left now).count ≤ n + 1 := by
  cases old with
  | none => exact Nat.le_add_left 1 n
  | some c =>
    rw [Store.bump]
    split
    · exact Nat.succ_le_succ (hold c rfl)
    · exact Nat.le_add_left 1 n

/-- No counter has counted more than all counters together. -/
def Store.Tallied (s : Store) : Prop :=
  ∀ (name : String) (c : Counter), s.counters[name]? = some c → c.count ≤ s.increments

lemma tallied_next (hs : s.Tallied) (step : Step) : (s.next step).Tallied := by
  intro name c hc
  rw [increments_next]
  cases step with
  | sweep now => exact hs name c (getElem?_sweep_eq_some_iff.1 hc).1
  | increment key window clock =>
    have hcounted : (s.counted key window clock).counters[name]? = some c := by
      rw [Store.next, increment_fst] at hc
      split at hc
      · exact (getElem?_sweep_eq_some_iff.1 hc).1
      · exact hc
    rw [getElem?_counted] at hcounted
    split at hcounted
    · obtain rfl := Option.some.inj hcounted
      exact count_bump_le (fun old hold => hs _ old hold) _ _
    · exact Nat.le_succ_of_le (hs name c hcounted)

lemma tallied_run (steps : List Step) : (Store.empty.run steps).Tallied := by
  induction steps using List.reverseRecOn with
  | nil => exact fun name c hc => absurd hc (by simp [Store.run, Store.empty])
  | append_singleton steps step ih =>
    rw [Store.run_snoc]
    exact tallied_next ih step

/-- Counts stay below the number of increments, so they fit into as many bits. -/
lemma count_run_le (steps : List Step) {name : String} {c : Counter}
    (hc : (Store.empty.run steps).counters[name]? = some c) :
    c.count ≤ steps.countP Step.isIncrement := by
  have hcount := tallied_run steps name c hc
  rw [increments_run] at hcount
  simpa [Store.empty] using hcount

/-- **Expired counters do not pile up.**  After any run, on clocks that may go back, a store has the
following.  If the last step was an increment, there is a counter for its window and the deadline of
that is ahead; and if the number of increments has come to a multiple of 1024, the deadlines of all
counters are ahead.  Later the store has no more counters than now and one for each increment since.
A sweep never makes it larger and removes exactly the counters that have expired by then; and no
step, be it a sweep or an increment that sweeps, removes or shortens a counter that has not. -/
theorem expired_counters_do_not_pile_up (steps since : List Step) :
    let s := Store.empty.run steps
    (∀ before key window clock, steps = before ++ [.increment key window clock] →
      (∃ c, s.counter? key (position clock.wall window).epoch = some c ∧
        clock.now.nanos < c.expiresAt.nanos) ∧
      (1024 ∣ steps.countP Step.isIncrement → ∀ (name : String) (c : Counter),
        s.counters[name]? = some c → clock.now.nanos < c.expiresAt.nanos)) ∧
    (s.run since).size ≤ s.size + since.countP Step.isIncrement ∧
    (∀ now, (s.sweep now).size ≤ s.size ∧ ∀ (name : String) (c : Counter),
      (s.sweep now).counters[name]? = some c ↔
        s.counters[name]? = some c ∧ now.nanos < c.expiresAt.nanos) ∧
    ∀ (step : Step) (name : String) (c : Counter), s.counters[name]? = some c →
      step.now.nanos < c.expiresAt.nanos → ∃ c', (s.next step).counters[name]? = some c' ∧
        c'.expiresAt = c.expiresAt ∧ c.count ≤ c'.count := by
  intro s
  refine ⟨?_, size_run_le s since,
    fun now => ⟨size_sweep_le s now, fun name c => getElem?_sweep_eq_some_iff⟩,
    fun step name c => exists_counter_of_live⟩
  rintro before key window clock rfl
  have hs : s = (Store.empty.run before).next (.increment key window clock) :=
    Store.run_snoc _ _ _
  refine ⟨hs ▸ exists_counter_increment _ key window clock, fun hdue name c hc => ?_⟩
  -- the increment has found the number of those before it, and has swept
  have hcount : (Store.empty.run before).increments + 1 =
      (before ++ [Step.increment key window clock]).countP Step.isIncrement := by
    rw [increments_run, List.countP_append]
    exact congrArg (· + 1) (Nat.zero_add _)
  have hsweeps : ((Store.empty.run before).increments + 1) % Store.sweepEvery = 0 := by
    rw [hcount]
    exact Nat.mod_eq_zero_of_dvd hdue
  rw [hs, Store.next, increment_fst, if_pos hsweeps] at hc
  exact (getElem?_sweep_eq_some_iff.1 hc).2

/-- The 1024th increment finds a counter that has expired. -/
theorem expired_counter_is_swept_out :
    let before : List Step := .increment "a" (.ofSeconds 1) ⟨0, ⟨0⟩⟩ :: .sweep ⟨5⟩ ::
      List.replicate 1022 (.increment "b" (.ofSeconds 60) ⟨500, ⟨500000000⟩⟩)
    let last : Step := .increment "b" (.ofSeconds 60) ⟨1000, ⟨1000000000⟩⟩
    ∀ (name : String) (c : Counter),
      (Store.empty.run (before ++ [last])).counters[name]? = some c →
        1000000000 < c.expiresAt.nanos := by
  intro before last
  have hdue : 1024 ∣ (before ++ [last]).countP Step.isIncrement := by
    simp only [before, last, List.countP_append, List.countP_cons, List.countP_nil,
      List.countP_replicate, Step.isIncrement]
    decide
  exact ((expired_counters_do_not_pile_up (before ++ [last]) []).1 before _ _ _ rfl).2 hdue

end Admission.Window
