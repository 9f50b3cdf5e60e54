/-
# Tokens that windows report

A counter starts anew once its deadline has passed, whatever the wall clock shows by then.  So the
increments that share a budget are those of one key in one window that are answered with the same
deadline (`Slot`), and a counter has counted exactly the increments of its slot (`Tally`).

What is left of the budget is reported as a number of 64 bits with a sign.  As long as it fits one,
the reports of a slot go down one by one to zero, and otherwise they are zero from the first on
(`reported_tokens_fall_below_limit`).  So with large quotas they grow where what is left begins to
fit (`reported_tokens_grow`).
-/
import Admission.Proofs.Window.Quota

namespace Admission.Window

open Store (Step)

/-! ## Slots -/

/-- One life of a counter.  The increments of a slot share a budget. -/
structure Slot where
  /-- The key that is counted. -/
  key : String
  /-- The number of the window. -/
  epoch : UInt64
  /-- When the counter expires. -/
  deadline : Instant
deriving DecidableEq

/-- The slot that a step is counted in, which its answer tells. -/
def slot? : Step → Option Count → Option Slot
  | .increment key _ clock, some c => some ⟨key, c.epoch, ⟨clock.now.nanos + c.ttl.nanos⟩⟩
  | .increment _ _ _, none => none
  | .sweep _, _ => none

/-- The slots of the steps of a run, to one who knows how a step changes a state and what it answers
in a state. -/
def slotsFrom {σ : Type} (next : σ → Step → σ) (answer : σ → Step → Option Count) (s : σ)
    (steps : List Step) : List (Option Slot) :=
  List.zipWith slot? steps (answers next answer s steps)

/-- The slots of the steps of a run of a store. -/
def slots (steps : List Step) : List (Option Slot) :=
  slotsFrom Store.next Store.answer .empty steps

namespace Limiter

/-- The increment that a call for an event is, if it reaches the store. -/
def increment (l : Limiter) (event : String) (clock : Clock) : Step :=
  .increment (l.ask event).key l.interval clock

/-- The slot of a call for an event after other calls. -/
def slotAfter (l : Limiter) (calls : List Call) (event : String) (clock : Clock) : Option Slot :=
  slot? (l.increment event clock)
    ((Shared.fresh.run calls).store.answer (l.increment event clock))

/-- The place of a call for an event among the calls of its slot, counted from one. -/
def rank (l : Limiter) (calls : List Call) (event : String) (clock : Clock) : ℕ :=
  (slots (calls.filterMap Call.step?)).count (l.slotAfter calls event clock) + 1

/-- What a call for an event leaves of the budget of its slot. -/
def left (l : Limiter) (calls : List Call) (event : String) (clock : Clock) : ℕ :=
  l.quota.toNat - l.rank calls event clock

end Limiter

lemma store_run_fresh (calls : List Call) :
    (Shared.fresh.run calls).store = Store.empty.run (calls.filterMap Call.step?) :=
  store_run Shared.fresh calls

lemma timely_increment {l : Limiter} {calls : List Call} {event : String} {clock : Clock}
    (htime : InOrder (calls ++ [.reserve l event .up clock])) :
    Timely (calls.filterMap Call.step? ++ [l.increment event clock]) := by
  have htimely := timely_calls htime
  rwa [List.filterMap_append] at htimely

/-! ## Answers one after the other -/

section

variable {σ : Type} (next : σ → Step → σ) (answer : σ → Step → Option Count) (s : σ)

lemma length_answers (steps : List Step) :
    (answers next answer s steps).length = steps.length := by
  induction steps generalizing s with
  | nil => rfl
  | cons step steps ih => rw [answers, List.length_cons, List.length_cons, ih]

lemma answers_append (steps more : List Step) :
    answers next answer s (steps ++ more) =
      answers next answer s steps ++ answers next answer (steps.foldl next s) more := by
  induction steps generalizing s with
  | nil => rfl
  | cons step steps ih =>
    rw [List.cons_append, answers, ih, answers, List.cons_append, List.foldl_cons]

lemma slotsFrom_append (steps more : List Step) :
    slotsFrom next answer s (steps ++ more) =
      slotsFrom next answer s steps ++ slotsFrom next answer (steps.foldl next s) more := by
  rw [slotsFrom, answers_append, List.zipWith_append (length_answers ..).symm]
  rfl

lemma slotsFrom_cons (step : Step) (steps : List Step) :
    slotsFrom next answer s (step :: steps) =
      slot? step (answer s step) :: slotsFrom next answer (next s step) steps :=
  rfl

end

/-! ## Records count their slots -/

namespace Ledger

/-- The slots of the steps of a run of a ledger. -/
def slots (steps : List Step) : List (Option Slot) :=
  slotsFrom next answer blank steps

lemma slots_snoc (steps : List Step) (step : Step) :
    slots (steps ++ [step]) = slots steps ++ [slot? step ((blank.run steps).answer step)] :=
  slotsFrom_append ..

lemma slot?_increment (l : Ledger) (key : String) (window : Duration) (clock : Clock) :
    slot? (.increment key window clock) (l.answer (.increment key window clock)) =
      some ⟨key, (position clock.wall window).epoch, (l.renewed key window clock).expiresAt⟩ := by
  have hle : clock.now.nanos ≤ (l.renewed key window clock).expiresAt.nanos := by
    rw [renewed, renew]
    split
    · exact Nat.le_of_lt ‹_›
    · exact Nat.le_add_right _ _
  have hdeadline := Nat.add_sub_cancel' hle
  simp only [answer, slot?, hdeadline]

end Ledger

/-- A record has counted the increments of its slot, which is the latest of its key and window. -/
structure Tally (slots : List (Option Slot)) (key : String) (epoch : UInt64)
    (record : Counter) : Prop where
  count_eq : record.count = slots.count (some ⟨key, epoch, record.expiresAt⟩)
  deadline_le : ∀ deadline, some ⟨key, epoch, deadline⟩ ∈ slots →
    deadline.nanos ≤ record.expiresAt.nanos

namespace Tally

variable {marks : List (Option Slot)} {key : String} {epoch : UInt64} {l : Ledger}

lemma skip {record : Counter} {mark : Option Slot} (h : Tally marks key epoch record)
    (hother : ∀ deadline, mark ≠ some ⟨key, epoch, deadline⟩) :
    Tally (marks ++ [mark]) key epoch record := by
  refine ⟨?_, fun deadline hmem => ?_⟩
  · rw [List.count_append, List.count_singleton, if_neg (by simpa using hother _)]
    exact h.count_eq
  · rcases List.mem_append.1 hmem with hmem | hmem
    · exact h.deadline_le deadline hmem
    · exact absurd (List.mem_singleton.1 hmem).symm (hother deadline)

/-- A record that counts one more is in step with its slot again. -/
lemma mark {record : Counter}
    (hcount : record.count = marks.count (some ⟨key, epoch, record.expiresAt⟩) + 1)
    (hlatest : ∀ deadline, some ⟨key, epoch, deadline⟩ ∈ marks →
      deadline.nanos ≤ record.expiresAt.nanos) :
    Tally (marks ++ [some ⟨key, epoch, record.expiresAt⟩]) key epoch record := by
  refine ⟨?_, fun deadline hmem => ?_⟩
  · rw [List.count_append, List.count_singleton_self, hcount]
  · rcases List.mem_append.1 hmem with hmem | hmem
    · exact hlatest deadline hmem
    · obtain ⟨⟩ := List.mem_singleton.1 hmem
      exact Nat.le_refl _

/-- A record that starts anew has a later deadline than before, so its slot is new. -/
lemma renewed {window : Duration} {clock : Clock}
    (h : Tally marks key (position clock.wall window).epoch
      (l (key, (position clock.wall window).epoch))) :
    Tally (marks ++ [some ⟨key, (position clock.wall window).epoch,
        (l.renewed key window clock).expiresAt⟩])
      key (position clock.wall window).epoch (l.renewed key window clock) := by
  have hleft := left_pos clock.wall window
  by_cases hlive : clock.now.nanos < (l (key, (position clock.wall window).epoch)).expiresAt.nanos
  · have hrecord : l.renewed key window clock =
        ⟨(l (key, (position clock.wall window).epoch)).count + 1,
          (l (key, (position clock.wall window).epoch)).expiresAt⟩ := by
      rw [Ledger.renewed, Ledger.renew, if_pos hlive]
    rw [hrecord]
    exact mark (congrArg (· + 1) h.count_eq) h.deadline_le
  · have hrecord : l.renewed key window clock =
        ⟨1, ⟨clock.now.nanos + (position clock.wall window).left.nanos⟩⟩ := by
      rw [Ledger.renewed, Ledger.renew, if_neg hlive]
    rw [hrecord]
    -- every slot so far has ended, and there is time left, so the new deadline is none of theirs
    have hbefore : ∀ deadline, some ⟨key, (position clock.wall window).epoch, deadline⟩ ∈ marks →
        deadline.nanos < clock.now.nanos + (position clock.wall window).left.nanos := by
      intro deadline hmem
      have := h.deadline_le deadline hmem
      omega
    refine mark ?_ fun deadline hmem => Nat.le_of_lt (hbefore deadline hmem)
    rw [List.count_eq_zero.2 fun hmem => Nat.lt_irrefl _ (hbefore _ hmem)]

end Tally

lemma tally_run (steps : List Step) (key : String) (epoch : UInt64) :
    Tally (Ledger.slots steps) key epoch (Ledger.blank.run steps (key, epoch)) := by
  induction steps using List.reverseRecOn with
  | nil => exact ⟨rfl, fun _ hmem => absurd hmem List.not_mem_nil⟩
  | append_singleton steps step ih =>
    rw [Ledger.slots_snoc, Ledger.run_snoc]
    by_cases hcounts : step.counts key epoch = true
    · obtain ⟨window, clock, rfl, rfl⟩ := Step.counts_eq_true_iff.1 hcounts
      rw [Ledger.slot?_increment, Ledger.next_increment_self]
      exact ih.renewed
    · rw [Ledger.next_of_not_counts (by simpa using hcounts)]
      refine ih.skip fun deadline hslot => hcounts ?_
      cases step with
      | increment counted window clock =>
        rw [Ledger.slot?_increment] at hslot
        obtain ⟨⟩ := hslot
        simp [Step.counts]
      | sweep now => exact absurd hslot (by simp [slot?])

section

variable {l : Limiter} {calls : List Call} {event : String} {clock : Clock}

lemma slotAfter_eq (htime : InOrder (calls ++ [.reserve l event .up clock])) :
    l.slotAfter calls event clock =
      some ⟨(l.ask event).key, (position clock.wall l.interval).epoch,
        ((Ledger.blank.run (calls.filterMap Call.step?)).renewed (l.ask event).key l.interval
          clock).expiresAt⟩ := by
  rw [Limiter.slotAfter, store_run_fresh, answer_run_eq (timely_increment htime)]
  exact Ledger.slot?_increment _ _ _ _

/-- The store counts the place of a call in its slot. -/
lemma count_eq_rank (htime : InOrder (calls ++ [.reserve l event .up clock])) :
    ((Shared.fresh.run calls).store.increment (l.ask event).key l.interval clock).2.count =
      l.rank calls event clock := by
  have htimely := timely_increment htime
  have hslots : slots (calls.filterMap Call.step?) = Ledger.slots (calls.filterMap Call.step?) := by
    rw [slots, Ledger.slots, slotsFrom, slotsFrom,
      (mirrors_empty ⟨0⟩).answers_eq (fun _ _ => Nat.zero_le _) (timely_snoc htimely).1]
  -- the tally of the run is renewed by this call, which is the last of its slot so far
  have htally := (tally_run (calls.filterMap Call.step?) (l.ask event).key
    (position clock.wall l.interval).epoch).renewed
  have hcount := htally.count_eq
  rw [List.count_append, List.count_singleton_self] at hcount
  rw [Limiter.rank, hslots, slotAfter_eq htime, ← hcount, store_run_fresh]
  exact congrArg Count.count (Option.some.inj (answer_run_eq htimely))

/-- The calls before an earlier call of a slot are fewer than those before a later one. -/
lemma rank_lt_of_slotAfter_eq {before between : List Call} {clock' : Clock}
    (hslot : l.slotAfter (before ++ .reserve l event .up clock' :: between) event clock =
      l.slotAfter before event clock') :
    l.rank before event clock' <
      l.rank (before ++ .reserve l event .up clock' :: between) event clock := by
  have hsteps : (before ++ .reserve l event .up clock' :: between).filterMap Call.step? =
      before.filterMap Call.step? ++ l.increment event clock' :: between.filterMap Call.step? := by
    rw [List.filterMap_append]
    rfl
  -- the earlier call has put its slot among those that are counted for the later one
  have hslots : slots (before.filterMap Call.step? ++ l.increment event clock' ::
        between.filterMap Call.step?) =
      slots (before.filterMap Call.step?) ++ l.slotAfter before event clock' ::
        slotsFrom Store.next Store.answer
          ((Store.empty.run (before.filterMap Call.step?)).next (l.increment event clock'))
          (between.filterMap Call.step?) := by
    rw [slots, slotsFrom_append, slotsFrom_cons, Limiter.slotAfter, store_run_fresh]
    rfl
  rw [Limiter.rank, Limiter.rank, hslot, hsteps, hslots, List.count_append, List.count_cons_self]
  omega

/-- On clocks in step, and with one interval for the key, all calls of a window share a slot. -/
lemma rank_eq_countP
    (htime : InOrder (calls ++ [.reserve l event .up clock]))
    (hclock : ∀ call ∈ calls ++ [.reserve l event .up clock], call.clock.InStep)
    (hinterval : ∀ l' event' link clock', .reserve l' event' link clock' ∈ calls →
      (l'.ask event').key = (l.ask event).key → l'.interval = l.interval) :
    l.rank calls event clock =
      calls.countP (Call.reaches (l.ask event).key (windowMillis l.interval)
        (clock.wall.toNat / windowMillis l.interval)) + 1 := by
  have hbefore : ∀ call ∈ calls, call.clock.InStep := fun call hcall =>
    hclock call (List.mem_append_left _ hcall)
  rw [← count_eq_rank htime, store_run_fresh, ← countP_step? hinterval]
  exact count_increment (timely_increment htime) (hclock (.reserve l event .up clock) (by simp))
    (uniform_step? hbefore hinterval)

end

/-! ## Reports -/

lemma bmod_neg {n limit : ℕ} (hlow : limit ≤ n) (hhigh : n < 2 * limit) :
    Int.bmod n (2 * limit) < 0 := by
  rw [Int.bmod_def, Int.emod_eq_of_lt (by omega) (by omega), if_neg (by omega)]
  omega

/-- From the limit of numbers with a sign on, a number of 64 bits is read as a negative one. -/
lemma signed64_of_ge {n : ℕ} (hlow : signedLimit ≤ n) (hhigh : n < UInt64.size) :
    Limiter.signed64 n < 0 := by
  -- the limit stays a name, because numbers of this size must not be unfolded
  have hsize : UInt64.size = 2 * signedLimit := rfl
  rw [hsize] at hhigh
  have hnegative := bmod_neg hlow hhigh
  rwa [← hsize] at hnegative

lemma tokens_judge_eq {l : Limiter} {c : Count} (hcount : c.count ≤ l.quota.toNat) :
    (l.judge c).tokens =
      if l.quota.toNat - c.count < signedLimit then l.quota.toNat - c.count else 0 := by
  have hquota : l.quota.toNat < UInt64.size := l.quota.toNat_lt_size
  split
  · exact tokens_judge hcount ‹_›
  · have hnegative := signed64_of_ge (n := l.quota.toNat - c.count) (by omega) (by omega)
    rw [Limiter.judge, if_pos hcount, Reservation.tokens_grant]
    exact Int.toNat_of_nonpos (by omega)

/-- What a call is answered depends on its place in its slot alone. -/
lemma exists_report {l : Limiter} {calls : List Call} {event : String} {clock : Clock}
    (htime : InOrder (calls ++ [.reserve l event .up clock])) :
    ∃ r, (l.reserve event ((Shared.fresh.run calls).onward .up clock)).2 = .ok r ∧
      (r.isOk = true ↔ l.rank calls event clock ≤ l.quota.toNat) ∧
      (r.isOk = true → r.tokens =
        if l.left calls event clock < signedLimit then l.left calls event clock else 0) := by
  refine ⟨_, reserve_up l event _ clock, ?_, fun hadmitted => ?_⟩
  · rw [isOk_judge, count_eq_rank htime]
  · rw [Limiter.left, ← count_eq_rank htime]
    exact tokens_judge_eq ((isOk_judge l _).1 hadmitted)

/-- **Reports fall as long as they fit a number with a sign.**  Whatever limiters, keys, intervals,
failures and sweeps a run mixes, and whatever the wall clock does, a call that reaches the store is
admitted if and only if its place in its slot is at most the quota.  An admitted call reports what
is left of the budget, but only as long as that fits a number with a sign; what does not fit is
reported as no token, and not as the largest number that fits.  So a report is smaller than that of
an earlier call of the slot if and only if that one fitted, and it is larger if and only if that one
did not fit and this one does.

On clocks in step, and with one interval for each key, the place in the slot is the place in the
window. -/
theorem reported_tokens_fall_below_limit {calls : List Call} {l : Limiter} {event : String}
    {clock : Clock} (htime : InOrder (calls ++ [.reserve l event .up clock])) :
    let rank := l.rank calls event clock
    let left := l.left calls event clock
    (∃ r, (l.reserve event ((Shared.fresh.run calls).onward .up clock)).2 = .ok r ∧
      (r.isOk = true ↔ rank ≤ l.quota.toNat) ∧
      (r.isOk = true →
        (r.tokens = min left (signedLimit - 1) ↔ left < signedLimit) ∧
        (r.tokens = 0 ↔ rank = l.quota.toNat ∨ signedLimit ≤ left) ∧
        ∀ before clock' between, calls = before ++ .reserve l event .up clock' :: between →
          l.slotAfter calls event clock = l.slotAfter before event clock' →
          let left' := l.left before event clock'
          ∃ r', (l.reserve event ((Shared.fresh.run before).onward .up clock')).2 = .ok r' ∧
            r'.isOk = true ∧ (r.tokens < r'.tokens ↔ left' < signedLimit) ∧
            (r'.tokens < r.tokens ↔ signedLimit ≤ left' ∧ left < signedLimit ∧ 0 < left))) ∧
    ((∀ call ∈ calls ++ [.reserve l event .up clock], call.clock.InStep) →
      (∀ l' event' link clock', .reserve l' event' link clock' ∈ calls →
        (l'.ask event').key = (l.ask event).key → l'.interval = l.interval) →
      rank = calls.countP (Call.reaches (l.ask event).key (windowMillis l.interval)
        (clock.wall.toNat / windowMillis l.interval)) + 1) := by
  intro rank left
  refine ⟨?_, fun hclock hinterval => ?_⟩
  · obtain ⟨r, hanswer, hok, htokens⟩ := exists_report htime
    refine ⟨r, hanswer, hok, fun hadmitted => ?_⟩
    have hquota : rank ≤ l.quota.toNat := hok.1 hadmitted
    have hreport : r.tokens = if left < signedLimit then left else 0 := htokens hadmitted
    have hleft : left = l.quota.toNat - rank := rfl
    have hlimit : 1 < signedLimit := by decide
    refine ⟨?_, ?_, ?_⟩
    · rw [hreport]
      split <;> omega
    · rw [hreport]
      split <;> omega
    · intro before clock' between hcalls hslot left'
      have hbefore : InOrder (before ++ [.reserve l event .up clock']) := by
        rw [hcalls] at htime
        exact List.Pairwise.sublist (by simp) htime
      obtain ⟨r', hanswer', hok', htokens'⟩ := exists_report hbefore
      have hrank : l.rank before event clock' < rank := by
        subst hcalls
        exact rank_lt_of_slotAfter_eq hslot
      have hadmitted' : r'.isOk = true := hok'.2 (by omega)
      have hreport' : r'.tokens = if left' < signedLimit then left' else 0 := htokens' hadmitted'
      have hless : left < left' := by
        have : left' = l.quota.toNat - l.rank before event clock' := rfl
        omega
      refine ⟨r', hanswer', hadmitted', ?_, ?_⟩
      · rw [hreport, hreport']
        split <;> split <;> omega
      · rw [hreport, hreport']
        split <;> split <;> omega
  · exact rank_eq_countP htime hclock hinterval

/-- If what the first call of a window leaves does not fit a number with a sign, it reports no
token, and the second one reports nearly all of them. -/
theorem reported_tokens_grow :
    let l : Limiter := ⟨"p", .ofSeconds 3600, 9223372036854775809, none⟩
    let calls : List Call := [.reserve l "u" .up ⟨0, ⟨0⟩⟩]
    l.slotAfter calls "u" ⟨1, ⟨1000000⟩⟩ = l.slotAfter [] "u" ⟨0, ⟨0⟩⟩ ∧
    (∃ r, (l.reserve "u" (Shared.fresh.onward .up ⟨0, ⟨0⟩⟩)).2 = .ok r ∧ r.isOk = true ∧
      l.left [] "u" ⟨0, ⟨0⟩⟩ = 9223372036854775808 ∧ r.tokens = 0) ∧
    ∃ r, (l.reserve "u" ((Shared.fresh.run calls).onward .up ⟨1, ⟨1000000⟩⟩)).2 = .ok r ∧
      r.isOk = true ∧ r.tokens = 9223372036854775807 := by
  intro l calls
  have htime : InOrder (calls ++ [.reserve l "u" .up ⟨1, ⟨1000000⟩⟩]) := by decide
  have hclock : ∀ call ∈ calls ++ [.reserve l "u" .up ⟨1, ⟨1000000⟩⟩], call.clock.InStep := by
    decide
  have hfirst : l.rank [] "u" ⟨0, ⟨0⟩⟩ = 1 := rfl
  have hsecond : l.rank calls "u" ⟨1, ⟨1000000⟩⟩ = 2 := by
    refine (rank_eq_countP htime hclock ?_).trans (by decide +kernel)
    intro l' event' link clock' hcall _
    simp only [calls, List.mem_singleton, Call.reserve.injEq] at hcall
    rw [hcall.1]
  have hquota : l.quota.toNat = 9223372036854775809 := by decide
  have hleft : l.left [] "u" ⟨0, ⟨0⟩⟩ = 9223372036854775808 := by
    rw [Limiter.left, hfirst, hquota]
  have hleft' : l.left calls "u" ⟨1, ⟨1000000⟩⟩ = 9223372036854775807 := by
    rw [Limiter.left, hsecond, hquota]
  have hnone : InOrder ([] ++ [.reserve l "u" .up ⟨0, ⟨0⟩⟩]) := by decide
  obtain ⟨r, hanswer, hok, htokens⟩ := exists_report hnone
  obtain ⟨r', hanswer', hok', htokens'⟩ := exists_report htime
  have hadmitted : r.isOk = true := hok.2 (by rw [hfirst, hquota]; decide)
  have hadmitted' : r'.isOk = true := hok'.2 (by rw [hsecond, hquota]; decide)
  rw [hleft] at htokens
  rw [hleft'] at htokens'
  refine ⟨?_, ⟨r, hanswer, hadmitted, hleft, htokens hadmitted⟩,
    r', hanswer', hadmitted', htokens' hadmitted'⟩
  -- the only call before the second one is in its slot
  have hcount : [l.slotAfter [] "u" ⟨0, ⟨0⟩⟩].count (l.slotAfter calls "u" ⟨1, ⟨1000000⟩⟩) = 1 :=
    Nat.succ.inj hsecond
  rw [List.count_singleton] at hcount
  by_contra hne
  rw [if_neg (by simpa using Ne.symm hne)] at hcount
  exact absurd hcount Nat.zero_ne_one

/-- A call for another event, one that fails and a sweep come between the two calls of a window. -/
theorem reported_tokens_fall_to_none :
    let l : Limiter := ⟨"p", .ofSeconds 1, 2, none⟩
    let between : List Call := [.reserve l "v" .up ⟨0, ⟨5⟩⟩,
      .reserve l "u" (.failing (.store "down")) ⟨0, ⟨5⟩⟩, .sweep ⟨999, ⟨999999999⟩⟩]
    let calls : List Call := .reserve l "u" .up ⟨0, ⟨0⟩⟩ :: between
    let last : Clock := ⟨999, ⟨999999999⟩⟩
    ∃ r r', (l.reserve "u" (Shared.fresh.onward .up ⟨0, ⟨0⟩⟩)).2 = .ok r' ∧
      (l.reserve "u" ((Shared.fresh.run calls).onward .up last)).2 = .ok r ∧
      r'.isOk = true ∧ r.isOk = true ∧ r.tokens < r'.tokens ∧ r.tokens = 0 := by
  intro l between calls last
  have htime : InOrder (calls ++ [.reserve l "u" .up last]) := by decide
  have hclock : ∀ call ∈ calls ++ [.reserve l "u" .up last], call.clock.InStep := by decide
  have hinterval : ∀ l' event' link clock', .reserve l' event' link clock' ∈ calls →
      (l'.ask event').key = (l.ask "u").key → l'.interval = l.interval := by
    intro l' event' link clock' hcall _
    simp only [calls, between, List.mem_cons, Call.reserve.injEq, List.not_mem_nil, reduceCtorEq,
      or_false] at hcall
    rcases hcall with ⟨rfl, -⟩ | ⟨rfl, -⟩ | ⟨rfl, -⟩ <;> rfl
  have hslot : l.slotAfter calls "u" last = l.slotAfter [] "u" ⟨0, ⟨0⟩⟩ := by
    have hfirst : InOrder ([] ++ [.reserve l "u" .up ⟨0, ⟨0⟩⟩]) := by decide
    rw [slotAfter_eq htime, slotAfter_eq hfirst]
    decide +kernel
  have hreports := reported_tokens_fall_below_limit htime
  have hrank := (hreports.2 hclock hinterval).trans
    (by decide +kernel : _ = l.quota.toNat)
  obtain ⟨r, hanswer, hok, htokens⟩ := hreports.1
  have hadmitted : r.isOk = true := hok.2 (Nat.le_of_eq hrank)
  obtain ⟨-, hnone, hearlier⟩ := htokens hadmitted
  obtain ⟨r', hanswer', hadmitted', hless, -⟩ := hearlier [] ⟨0, ⟨0⟩⟩ between rfl hslot
  exact ⟨r, r', hanswer', hanswer, hadmitted', hadmitted, hless.2 (by decide),
    hnone.2 (.inl hrank)⟩

end Admission.Window
