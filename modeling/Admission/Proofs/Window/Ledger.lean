/-
# Stores without sweeps

A ledger counts like a store, but it never removes anything: it has one record for every pair of
a key and a window.  A record whose deadline is ahead goes on counting, any other one starts
anew.  The store and the ledger are compared by what they answer.

The store drops counters, so the two do not agree on every record.  What they have in common at
a moment (`Mirrors`) is that a counter in the store is the ledger's record, and that a record
without a counter has expired.  The main result is `answers_eq_ledger`: sweeps and the names of
counters cannot be observed, and no counter is forgotten while a time that it has reported runs.
-/
import Admission.Proofs.Window.Counters
import Mathlib.Data.List.Induction
import Mathlib.Logic.Function.Basic

namespace Admission.Window

open Store (Step)

/-! ## Ledgers -/

/-- A record for every pair of a key and a window. -/
abbrev Ledger : Type := String × UInt64 → Counter

namespace Ledger

/-- No increments so far: every record has expired. -/
def blank : Ledger := fun _ => ⟨0, ⟨0⟩⟩

/-- A record after one more increment: if its deadline is ahead, its count goes up and the
deadline stays; otherwise it starts anew for the time that is left of the window. -/
def renew (old : Counter) (left : Duration) (now : Instant) : Counter :=
  if now.nanos < old.expiresAt.nanos then ⟨old.count + 1, old.expiresAt⟩
  else ⟨1, ⟨now.nanos + left.nanos⟩⟩

/-- The record of a key after an increment. -/
def renewed (l : Ledger) (key : String) (window : Duration) (clock : Clock) : Counter :=
  let place := position clock.wall window
  renew (l (key, place.epoch)) place.left clock.now

/-- The ledger after a step. -/
def next (l : Ledger) : Step → Ledger
  | .increment key window clock =>
    Function.update l (key, (position clock.wall window).epoch) (l.renewed key window clock)
  | .sweep _ => l

/-- What a step answers: the count, the time to the deadline and the number of the window. -/
def answer (l : Ledger) : Step → Option Count
  | .increment key window clock =>
    let record := l.renewed key window clock
    some ⟨record.count, ⟨record.expiresAt.nanos - clock.now.nanos⟩,
      (position clock.wall window).epoch⟩
  | .sweep _ => none

/-- The ledger after a run. -/
def run (l : Ledger) (steps : List Step) : Ledger :=
  steps.foldl next l

lemma run_append (l : Ledger) (steps more : List Step) :
    l.run (steps ++ more) = (l.run steps).run more :=
  List.foldl_append

lemma run_snoc (l : Ledger) (steps : List Step) (step : Step) :
    l.run (steps ++ [step]) = (l.run steps).next step :=
  List.foldl_append

lemma next_increment_self (l : Ledger) (key : String) (window : Duration) (clock : Clock) :
    l.next (.increment key window clock) (key, (position clock.wall window).epoch) =
      l.renewed key window clock :=
  Function.update_self ..

/-- Other increments and sweeps leave a record alone. -/
lemma next_of_not_counts {l : Ledger} {step : Step} {key : String} {epoch : UInt64}
    (h : step.counts key epoch = false) : l.next step (key, epoch) = l (key, epoch) := by
  cases step with
  | increment counted window clock =>
    refine Function.update_of_ne ?_ ..
    rintro ⟨⟩
    simp [Step.counts] at h
  | sweep now => rfl

/-- A record depends only on the increments of its key in its window. -/
lemma run_filter (l : Ledger) (steps : List Step) (key : String) (epoch : UInt64) :
    l.run (steps.filter (Step.counts key epoch)) (key, epoch) = l.run steps (key, epoch) := by
  induction steps using List.reverseRecOn with
  | nil => rfl
  | append_singleton steps step ih =>
    rw [List.filter_append, run_snoc]
    by_cases hcounts : step.counts key epoch = true
    · obtain ⟨window, clock, rfl, rfl⟩ := Step.counts_eq_true_iff.1 hcounts
      rw [List.filter_cons_of_pos hcounts, List.filter_nil, run_snoc, next_increment_self,
        next_increment_self, renewed, renewed, ih]
    · rw [List.filter_cons_of_neg hcounts, List.filter_nil, List.append_nil, ih,
        next_of_not_counts (by simpa using hcounts)]

/-- What an increment answers depends only on the earlier increments of its key in its window. -/
lemma answer_run_congr {l : Ledger} {steps others : List Step} {key : String} {window : Duration}
    {clock : Clock}
    (hsame : steps.filter (Step.counts key (position clock.wall window).epoch) =
      others.filter (Step.counts key (position clock.wall window).epoch)) :
    (l.run steps).answer (.increment key window clock) =
      (l.run others).answer (.increment key window clock) := by
  have hrecord : (l.run steps).renewed key window clock =
      (l.run others).renewed key window clock := by
    rw [renewed, renewed, ← run_filter l steps, hsame, run_filter]
  rw [answer, answer, hrecord]

end Ledger

/-- What the steps of a run answer, in order, to one who knows how a step changes a state and
what it answers in a state. -/
def answers {σ : Type} (next : σ → Step → σ) (answer : σ → Step → Option Count) (s : σ) :
    List Step → List (Option Count)
  | [] => []
  | step :: steps => answer s step :: answers next answer (next s step) steps

/-! ## What a store and a ledger have in common -/

/-- At the moment `now` every counter of the store is the ledger's record, and every record that
has no counter has expired. -/
def Mirrors (s : Store) (l : Ledger) (now : Instant) : Prop :=
  ∀ key epoch, s.counter? key epoch = some (l (key, epoch)) ∨
    s.counter? key epoch = none ∧ (l (key, epoch)).expiresAt.nanos ≤ now.nanos

variable {s : Store} {l : Ledger} {now : Instant}

lemma mirrors_empty (now : Instant) : Mirrors .empty .blank now :=
  fun _ _ => .inr ⟨Std.HashMap.getElem?_empty, Nat.zero_le _⟩

lemma Mirrors.later {later : Instant} (h : Mirrors s l now) (hle : now.nanos ≤ later.nanos) :
    Mirrors s l later := by
  intro key epoch
  rcases h key epoch with hsome | ⟨hnone, hexpired⟩
  · exact .inl hsome
  · exact .inr ⟨hnone, Nat.le_trans hexpired hle⟩

/-- A sweep only drops counters whose records have expired. -/
lemma Mirrors.sweep (h : Mirrors s l now) : Mirrors (s.sweep now) l now := by
  intro key epoch
  rw [counter?_sweep]
  rcases h key epoch with hsome | ⟨hnone, hexpired⟩
  · rw [hsome]
    by_cases hlive : now.nanos < (l (key, epoch)).expiresAt.nanos
    · exact .inl (by simp [Instant.isAfter, hlive])
    · exact .inr ⟨by simpa [Instant.isAfter] using hlive, Nat.le_of_not_lt hlive⟩
  · exact .inr ⟨by simp [hnone], hexpired⟩

/-- A counter that is missing and a record that has expired are counted alike. -/
lemma Mirrors.bump_eq (h : Mirrors s l now) (key : String) (epoch : UInt64) (left : Duration) :
    Store.bump (s.counter? key epoch) left now = Ledger.renew (l (key, epoch)) left now := by
  rcases h key epoch with hsome | ⟨hnone, hexpired⟩
  · simp only [hsome, Store.bump, Ledger.renew, Instant.isAfter, decide_eq_true_eq]
    split <;> rfl
  · simp only [hnone, Store.bump, Ledger.renew]
    rw [if_neg (Nat.not_lt_of_le hexpired)]
    rfl

lemma Mirrors.counted {key : String} {window : Duration} {clock : Clock}
    (h : Mirrors s l clock.now) :
    Mirrors (s.counted key window clock) (l.next (.increment key window clock)) clock.now := by
  intro other epoch
  rw [counter?_counted, h.bump_eq]
  by_cases heq : key = other ∧ (position clock.wall window).epoch = epoch
  · obtain ⟨rfl, rfl⟩ := heq
    exact .inl (by simp [Ledger.next, Ledger.renewed])
  · have hne : (other, epoch) ≠ (key, (position clock.wall window).epoch) := by
      rintro ⟨⟩
      exact heq ⟨rfl, rfl⟩
    rw [if_neg heq, Ledger.next, Function.update_of_ne hne]
    exact h other epoch

/-- One step answers the same on both sides, and they go on having in common what they had. -/
lemma Mirrors.step {step : Step} (h : Mirrors s l now) (hle : now.nanos ≤ step.now.nanos) :
    s.answer step = l.answer step ∧ Mirrors (s.next step) (l.next step) step.now := by
  cases step with
  | increment key window clock =>
    have hnow : Mirrors s l clock.now := h.later hle
    refine ⟨?_, ?_⟩
    · rw [Store.answer, increment_snd]
      simp only [hnow.bump_eq]
      rfl
    · rw [Store.next, increment_fst]
      split
      · exact hnow.counted.sweep
      · exact hnow.counted
  | sweep now => exact ⟨rfl, (h.later hle).sweep⟩

/-! ## Runs -/

lemma timely_snoc {steps : List Step} {step : Step} (h : Timely (steps ++ [step])) :
    Timely steps ∧ ∀ earlier ∈ steps, earlier.now.nanos ≤ step.now.nanos := by
  rw [Timely, List.pairwise_append] at h
  exact ⟨h.1, fun earlier hearlier => h.2.2 earlier hearlier step List.mem_cons_self⟩

lemma Mirrors.answers_eq {steps : List Step} (h : Mirrors s l now)
    (hle : ∀ step ∈ steps, now.nanos ≤ step.now.nanos) (htime : Timely steps) :
    answers Store.next Store.answer s steps = answers Ledger.next Ledger.answer l steps := by
  induction steps generalizing s l now with
  | nil => rfl
  | cons step steps ih =>
    rw [Timely, List.pairwise_cons] at htime
    obtain ⟨hanswer, hnext⟩ := h.step (hle step List.mem_cons_self)
    rw [answers, answers, hanswer, ih hnext htime.1 htime.2]

/-- After a run the store and the ledger have in common what they had at its start. -/
lemma mirrors_run {steps : List Step} (htime : Timely steps) {later : Instant}
    (hlater : ∀ step ∈ steps, step.now.nanos ≤ later.nanos) :
    Mirrors (Store.empty.run steps) (Ledger.blank.run steps) later := by
  induction steps using List.reverseRecOn generalizing later with
  | nil => exact mirrors_empty later
  | append_singleton steps step ih =>
    obtain ⟨hsteps, hle⟩ := timely_snoc htime
    have hbefore := ih hsteps hle
    rw [Store.run_snoc, Ledger.run_snoc]
    exact (hbefore.step (Nat.le_refl _)).2.later (hlater step (by simp))

/-- At every place of a run the store answers as the ledger does. -/
lemma answer_run_eq {steps : List Step} {step : Step} (htime : Timely (steps ++ [step])) :
    (Store.empty.run steps).answer step = (Ledger.blank.run steps).answer step := by
  obtain ⟨hsteps, hle⟩ := timely_snoc htime
  exact ((mirrors_run hsteps hle).step (Nat.le_refl _)).1

/-! ## Deadlines -/

/-- A record that has just been counted has its deadline ahead. -/
lemma lt_expiresAt_renewed (l : Ledger) (key : String) {window : Duration} {clock : Clock}
    (hreach : InReach clock.wall window) :
    clock.now.nanos < (l.renewed key window clock).expiresAt.nanos := by
  rw [Ledger.renewed, Ledger.renew]
  split
  · assumption
  · have := remaining_pos hreach
    simp only [nanos_left]
    omega

lemma ttl_pos_of_mem_answers {steps : List Step} {c : Count}
    (hreach : ∀ step ∈ steps, step.InReach)
    (hc : some c ∈ answers Ledger.next Ledger.answer l steps) : 0 < c.ttl.nanos := by
  induction steps generalizing l with
  | nil => exact absurd hc (by simp [answers])
  | cons step steps ih =>
    rw [answers, List.mem_cons] at hc
    rcases hc with hc | hc
    · cases step with
      | increment key window clock =>
        have hlt := lt_expiresAt_renewed l key (hreach _ List.mem_cons_self)
        cases hc
        simp only
        omega
      | sweep now => exact absurd hc (by simp [Ledger.answer])
    · exact ih (fun step hstep => hreach step (List.mem_cons_of_mem _ hstep)) hc

/-- A record whose deadline is ahead keeps it and goes on counting. -/
lemma run_of_live {steps : List Step} {key : String} {epoch : UInt64}
    (hlive : ∀ step ∈ steps, step.now.nanos < (l (key, epoch)).expiresAt.nanos) :
    l.run steps (key, epoch) =
      ⟨(l (key, epoch)).count + steps.countP (Step.counts key epoch),
        (l (key, epoch)).expiresAt⟩ := by
  induction steps using List.reverseRecOn with
  | nil => rfl
  | append_singleton steps step ih =>
    have hrun := ih fun step hstep => hlive step (List.mem_append_left _ hstep)
    have hnow := hlive step (by simp)
    rw [Ledger.run_snoc, List.countP_append, List.countP_singleton]
    by_cases hcounts : step.counts key epoch = true
    · obtain ⟨window, clock, rfl, rfl⟩ := Step.counts_eq_true_iff.1 hcounts
      have hahead : clock.now.nanos <
          (l.run steps (key, (position clock.wall window).epoch)).expiresAt.nanos := by
        rw [hrun]
        exact hnow
      rw [Ledger.next_increment_self, Ledger.renewed, Ledger.renew, if_pos hahead, hrun,
        if_pos hcounts, Nat.add_assoc]
    · rw [Ledger.next_of_not_counts (by simpa using hcounts), hrun, if_neg hcounts, Nat.add_zero]

/-! ## The refinement -/

/-- **A store cannot be told from a ledger.**  In every run whose monotonic clock never goes back,
whatever the wall clock does, the store answers as the ledger that never sweeps and has a record
for every pair of a key and a window.  The times that it reports are never zero; and until a
reported time has passed, the counter is in the store with the deadline that was reported, and it
has counted every increment since. -/
theorem answers_eq_ledger {steps : List Step} (htime : Timely steps)
    (hreach : ∀ step ∈ steps, step.InReach) :
    answers Store.next Store.answer .empty steps =
        answers Ledger.next Ledger.answer .blank steps ∧
      (∀ c, some c ∈ answers Store.next Store.answer .empty steps → 0 < c.ttl.nanos) ∧
      ∀ before key window clock since, steps = before ++ .increment key window clock :: since →
        let reported := ((Store.empty.run before).increment key window clock).2
        (∀ step ∈ since, step.now.nanos < clock.now.nanos + reported.ttl.nanos) →
          (Store.empty.run steps).counter? key reported.epoch =
            some ⟨reported.count + since.countP (Step.counts key reported.epoch),
              ⟨clock.now.nanos + reported.ttl.nanos⟩⟩ := by
  have hanswers := (mirrors_empty ⟨0⟩).answers_eq (fun _ _ => Nat.zero_le _) htime
  refine ⟨hanswers, fun c hc => ttl_pos_of_mem_answers hreach (hanswers ▸ hc), ?_⟩
  rintro before key window clock since rfl reported hsince
  set record := (Ledger.blank.run before).renewed key window clock with hrecord
  -- the store reports the ledger's record
  have hprefix : Timely (before ++ [.increment key window clock]) :=
    List.Pairwise.sublist (by simp) htime
  have hreported : reported = ⟨record.count, ⟨record.expiresAt.nanos - clock.now.nanos⟩,
      (position clock.wall window).epoch⟩ :=
    Option.some.inj (answer_run_eq hprefix)
  have hahead : clock.now.nanos < record.expiresAt.nanos :=
    lt_expiresAt_renewed _ key (hreach (.increment key window clock) (by simp))
  have hdeadline : clock.now.nanos + reported.ttl.nanos = record.expiresAt.nanos := by
    rw [hreported]
    show clock.now.nanos + (record.expiresAt.nanos - clock.now.nanos) = _
    omega
  have hlast : ∀ step ∈ before, step.now.nanos ≤ clock.now.nanos := (timely_snoc hprefix).2
  -- nothing happens at the deadline or later, so the counter cannot have been dropped
  have hmirrors : Mirrors (Store.empty.run (before ++ .increment key window clock :: since))
      (Ledger.blank.run (before ++ .increment key window clock :: since))
      ⟨record.expiresAt.nanos - 1⟩ := by
    refine mirrors_run htime fun step hstep => Nat.le_sub_one_of_lt ?_
    rcases List.mem_append.1 hstep with hstep | hstep
    · exact Nat.lt_of_le_of_lt (hlast step hstep) hahead
    · rcases List.mem_cons.1 hstep with rfl | hstep
      · exact hahead
      · exact hdeadline ▸ hsince step hstep
  have hrun : Ledger.blank.run (before ++ .increment key window clock :: since)
      (key, (position clock.wall window).epoch) =
        ⟨record.count + since.countP (Step.counts key (position clock.wall window).epoch),
          record.expiresAt⟩ := by
    have hself := Ledger.next_increment_self (Ledger.blank.run before) key window clock
    rw [← hrecord] at hself
    rw [List.append_cons, Ledger.run_append, Ledger.run_snoc, run_of_live, hself]
    rw [hself]
    exact fun step hstep => hdeadline ▸ hsince step hstep
  rw [hdeadline, hreported]
  rcases hmirrors key (position clock.wall window).epoch with hsome | ⟨-, hexpired⟩
  · rw [hsome, hrun]
  · rw [hrun] at hexpired
    simp only at hexpired
    omega

/-- The wall clock jumps back into a window whose counter has been swept out. -/
theorem answers_after_jump :
    answers Store.next Store.answer .empty
        [.increment "k" (.ofSeconds 60) ⟨59000, ⟨0⟩⟩, .increment "k:0" (.ofSeconds 60) ⟨0, ⟨5⟩⟩,
          .sweep ⟨1000000000⟩, .increment "k" (.ofSeconds 60) ⟨58000, ⟨1000000001⟩⟩,
          .increment "k" (.ofSeconds 30) ⟨10, ⟨2000000000⟩⟩] =
      [some ⟨1, .ofMillis 1000, 0⟩, some ⟨1, .ofMillis 60000, 0⟩, none,
        some ⟨1, .ofMillis 2000, 0⟩, some ⟨2, ⟨1000000001⟩, 0⟩] := by
  refine (answers_eq_ledger ?_ ?_).1.trans (by decide +kernel)
  · simp [Timely, Step.now]
  · simp only [List.mem_cons, List.not_mem_nil, or_false, forall_eq_or_imp, forall_eq,
      Step.InReach]
    exact ⟨inReach_of_lt (by decide), inReach_of_lt (by decide), trivial,
      inReach_of_lt (by decide), inReach_of_lt (by decide)⟩

end Admission.Window
