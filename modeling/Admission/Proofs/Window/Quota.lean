/-
# Exact quotas

On clocks that show the same millisecond a counter cannot expire inside its window: its deadline
is the end of the window or later.  So a record counts every increment of its window, and the
quota of a limiter is exact: of the calls that reach the store for one key in one window, the
first ones are admitted up to the quota and all others rejected, in whatever order calls, failures
and sweeps are mixed (`reserve_isOk_iff_le_quota`).
-/
import Admission.Proofs.Window.Calls
import Admission.Proofs.Window.Ledger

namespace Admission.Window

open Store (Step)

/-- The two clocks show the same millisecond, and it fits 64 bits with a sign. -/
def Clock.InStep (c : Clock) : Prop :=
  c.wall.toNat = c.now.nanos / 1000000 ∧ c.wall.toNat < signedLimit

instance (c : Clock) : Decidable c.InStep :=
  inferInstanceAs (Decidable (_ ∧ _))

/-! ## Records count every increment -/

/-- A record that has counted all `n` increments of its window so far and that lives to the end
of the window, unless there were none. -/
def CountsAll (n windowEnd : Nat) (record : Counter) : Prop :=
  record.count = n ∧
    if n = 0 then record.expiresAt.nanos = 0 else windowEnd * 1000000 ≤ record.expiresAt.nanos

/-- One more increment before the end of the window is counted too. -/
lemma CountsAll.renewed {n : Nat} {l : Ledger} {key : String} {window : Duration} {clock : Clock}
    (hclock : clock.InStep)
    (h : CountsAll n ((clock.wall.toNat / windowMillis window + 1) * windowMillis window)
      (l (key, (position clock.wall window).epoch))) :
    CountsAll (n + 1) ((clock.wall.toNat / windowMillis window + 1) * windowMillis window)
      (l.renewed key window clock) := by
  obtain ⟨hsame, hlimit⟩ := hclock
  obtain ⟨hcount, hdeadline⟩ := h
  have hreach : InReach clock.wall window := inReach_of_lt hlimit
  have hremaining := toNat_remaining hreach
  have hend := lt_windowEnd clock.wall.toNat window
  generalize (clock.wall.toNat / windowMillis window + 1) * windowMillis window = windowEnd at *
  rw [Ledger.renewed, Ledger.renew, CountsAll, if_neg (Nat.succ_ne_zero n)]
  by_cases hn : n = 0
  · rw [if_pos hn] at hdeadline
    rw [if_neg (by omega), hn]
    refine ⟨rfl, ?_⟩
    simp only [nanos_left, hremaining]
    omega
  · rw [if_neg hn] at hdeadline
    rw [if_pos (by omega)]
    exact ⟨congrArg (· + 1) hcount, hdeadline⟩

/-- All increments of a key in a window are made with windows of this length, on clocks in
step. -/
def Uniform (key : String) (epoch : UInt64) (length : Nat) (steps : List Step) : Prop :=
  ∀ window clock, .increment key window clock ∈ steps →
    (position clock.wall window).epoch = epoch → windowMillis window = length ∧ clock.InStep

lemma countsAll_run {steps : List Step} {key : String} {epoch : UInt64} {length : Nat}
    (h : Uniform key epoch length steps) :
    CountsAll (steps.countP (Step.counts key epoch)) ((epoch.toNat + 1) * length)
      (Ledger.blank.run steps (key, epoch)) := by
  induction steps using List.reverseRecOn with
  | nil => exact ⟨rfl, rfl⟩
  | append_singleton steps step ih =>
    have hrun := ih fun window clock hmem => h window clock (List.mem_append_left _ hmem)
    rw [Ledger.run_snoc, List.countP_append, List.countP_singleton]
    by_cases hcounts : step.counts key epoch = true
    · obtain ⟨window, clock, rfl, rfl⟩ := Step.counts_eq_true_iff.1 hcounts
      obtain ⟨rfl, hclock⟩ := h window clock (by simp) rfl
      rw [toNat_epoch] at hrun ⊢
      rw [if_pos hcounts, Ledger.next_increment_self]
      exact hrun.renewed hclock
    · rw [if_neg hcounts, Ledger.next_of_not_counts (by simpa using hcounts)]
      exact hrun

/-- In a run whose clocks are in step an increment answers how many increments of the key and
window there have been, with itself. -/
lemma count_increment {steps : List Step} {key : String} {window : Duration} {clock : Clock}
    (htime : Timely (steps ++ [.increment key window clock])) (hclock : clock.InStep)
    (h : Uniform key (position clock.wall window).epoch (windowMillis window) steps) :
    ((Store.empty.run steps).increment key window clock).2.count =
      steps.countP (Step.counts key (position clock.wall window).epoch) + 1 := by
  have hanswer := Option.some.inj (answer_run_eq htime)
  have hrecord := countsAll_run h
  rw [toNat_epoch] at hrecord
  rw [hanswer]
  exact (hrecord.renewed hclock).1

/-! ## Limiters -/

/-- Whether a call reaches the store for a key in the window with this number, where windows have
this length. -/
def Call.reaches (key : String) (length epoch : Nat) : Call → Bool
  | .reserve l event .up clock => (l.ask event).key == key && clock.wall.toNat / length == epoch
  | _ => false

lemma signed64_of_lt {n : Nat} (h : n < signedLimit) : Limiter.signed64 n = n := by
  have hsize : UInt64.size = 2 * signedLimit := rfl
  exact Int.bmod_eq_of_le_mul_two (by omega) (by omega)

lemma isOk_judge (l : Limiter) (c : Count) :
    (l.judge c).isOk = true ↔ c.count ≤ l.quota.toNat := by
  rw [Limiter.judge]
  split <;> simp [*]

lemma tokens_judge {l : Limiter} {c : Count} (hcount : c.count ≤ l.quota.toNat)
    (hlimit : l.quota.toNat - c.count < signedLimit) :
    (l.judge c).tokens = l.quota.toNat - c.count := by
  have hsigned := signed64_of_lt hlimit
  rw [Limiter.judge, if_pos hcount, Reservation.tokens_grant]
  omega

/-- The calls that reach the store for a key in a window are the store's increments of them. -/
lemma countP_step? {calls : List Call} {l : Limiter} {event : String} {clock : Clock}
    (hinterval : ∀ l' event' link clock', .reserve l' event' link clock' ∈ calls →
      (l'.ask event').key = (l.ask event).key → l'.interval = l.interval) :
    (calls.filterMap Call.step?).countP
        (Step.counts (l.ask event).key (position clock.wall l.interval).epoch) =
      calls.countP (Call.reaches (l.ask event).key (windowMillis l.interval)
        (clock.wall.toNat / windowMillis l.interval)) := by
  rw [List.countP_filterMap]
  refine List.countP_congr fun call hcall => ?_
  cases call with
  | reserve l' event' link clock' =>
    cases link with
    | up =>
      have hsame := hinterval l' event' .up clock' hcall
      simp only [Call.step?, Option.map_some, Option.getD_some, Step.counts, Call.reaches,
        Bool.and_eq_true, beq_iff_eq]
      refine and_congr_right fun hkey => ?_
      rw [hsame hkey, ← UInt64.toNat_inj, toNat_epoch, toNat_epoch]
    | failing e => simp [Call.step?, Call.reaches]
    | stalled => simp [Call.step?, Call.reaches]
  | sweep clock' => simp [Call.step?, Step.counts, Call.reaches]

lemma uniform_step? {calls : List Call} {l : Limiter} {event : String} {epoch : UInt64}
    (hclock : ∀ call ∈ calls, call.clock.InStep)
    (hinterval : ∀ l' event' link clock', .reserve l' event' link clock' ∈ calls →
      (l'.ask event').key = (l.ask event).key → l'.interval = l.interval) :
    Uniform (l.ask event).key epoch (windowMillis l.interval) (calls.filterMap Call.step?) := by
  intro window clock hmem _
  obtain ⟨l', event', hcall, hkey, rfl⟩ := Call.increment_mem_filterMap_iff.1 hmem
  have hsame := hinterval l' event' .up clock hcall hkey
  exact ⟨by rw [hsame], hclock _ hcall⟩

/-- **Quotas are exact.**  Whatever limiters, keys, failures and sweeps a run mixes: if all calls
for the key of a limiter's event are made with the interval of that limiter, the `k`-th of them
that reaches the store in its window is admitted if and only if `k` is at most the quota, with
what is left of the quota as its tokens, and rejected without an error otherwise.  Calls that do
not reach the store leave it as it is. -/
theorem reserve_isOk_iff_le_quota {calls : List Call} {l : Limiter} {event : String}
    {clock : Clock} (htime : InOrder (calls ++ [.reserve l event .up clock]))
    (hclock : ∀ call ∈ calls ++ [.reserve l event .up clock], call.clock.InStep)
    (hinterval : ∀ l' event' link clock', .reserve l' event' link clock' ∈ calls →
      (l'.ask event').key = (l.ask event).key → l'.interval = l.interval) :
    let length := max 1 (l.interval.millis % UInt64.size)
    let k := calls.countP (Call.reaches (l.ask event).key length (clock.wall.toNat / length)) + 1
    let s := Shared.fresh.run calls
    (∃ r, (l.reserve event (s.onward .up clock)).2 = .ok r ∧
        (r.isOk = true ↔ k ≤ l.quota.toNat) ∧
        (k ≤ l.quota.toNat → l.quota.toNat - k < signedLimit →
          r.tokens = l.quota.toNat - k)) ∧
      ∀ l' event' link clock', link ≠ .up →
        (s.next (.reserve l' event' link clock')).store = s.store := by
  intro length k s
  refine ⟨?_, ?_⟩
  · have htimely : Timely (calls.filterMap Call.step? ++
        [.increment (l.ask event).key l.interval clock]) := by
      have := timely_calls htime
      rwa [List.filterMap_append] at this
    have hbefore : ∀ call ∈ calls, call.clock.InStep := fun call hcall =>
      hclock call (List.mem_append_left _ hcall)
    have hcount := count_increment htimely (hclock (.reserve l event .up clock) (by simp))
      (uniform_step? hbefore hinterval)
    rw [countP_step? hinterval] at hcount
    have hstore : s.store = Store.empty.run (calls.filterMap Call.step?) :=
      store_run Shared.fresh calls
    rw [← hstore] at hcount
    change _ = k at hcount
    refine ⟨_, reserve_up l event s clock, ?_, ?_⟩
    · rw [isOk_judge, hcount]
    · intro hquota hlimit
      rw [← hcount] at hquota hlimit ⊢
      exact tokens_judge hquota hlimit
  · intro l' event' link clock' hlink
    rw [store_next]
    cases link with
    | up => exact absurd rfl hlink
    | failing e => rfl
    | stalled => rfl

/-- Two limiters with different quotas under one key, at the turn of a window, with calls that
fail and a sweep between them: the second token of the window is the last of the smaller
quota. -/
theorem reserve_last_token :
    let small : Limiter := ⟨"svc", .ofSeconds 60, 2, none⟩
    let large : Limiter := ⟨"svc", .ofSeconds 60, 5, some (.ofSeconds 1)⟩
    let calls : List Call := [.reserve small "u" .up ⟨59999, ⟨59999000000⟩⟩,
      .reserve large "u" .up ⟨60000, ⟨60000000000⟩⟩,
      .reserve small "u" (.failing (.store "down")) ⟨60001, ⟨60001000000⟩⟩,
      .reserve large "" .stalled ⟨60001, ⟨60001000000⟩⟩, .sweep ⟨60002, ⟨60002000007⟩⟩,
      .reserve small "v" .up ⟨60003, ⟨60003000000⟩⟩]
    let clock : Clock := ⟨60004, ⟨60004000000⟩⟩
    ∃ r, (small.reserve "u" ((Shared.fresh.run calls).onward .up clock)).2 = .ok r ∧
      r.isOk = true ∧ r.tokens = 0 := by
  intro small large calls clock
  have htime : InOrder (calls ++ [.reserve small "u" .up clock]) := by decide +kernel
  have hclock : ∀ call ∈ calls ++ [.reserve small "u" .up clock], call.clock.InStep := by
    decide +kernel
  have hinterval : ∀ l' event' link clock', .reserve l' event' link clock' ∈ calls →
      (l'.ask event').key = (small.ask "u").key → l'.interval = small.interval := by
    intro l' event' link clock' hcall _
    simp only [calls, List.mem_cons, Call.reserve.injEq, List.not_mem_nil, reduceCtorEq,
      or_false, false_or] at hcall
    rcases hcall with ⟨rfl, -⟩ | ⟨rfl, -⟩ | ⟨rfl, -⟩ | ⟨rfl, -⟩ | ⟨rfl, -⟩ <;> rfl
  have hsecond : calls.countP (Call.reaches (small.ask "u").key
      (max 1 (small.interval.millis % UInt64.size))
      (clock.wall.toNat / max 1 (small.interval.millis % UInt64.size))) + 1 = 2 := by
    decide +kernel
  obtain ⟨⟨r, hr, hok, htokens⟩, -⟩ := reserve_isOk_iff_le_quota htime hclock hinterval
  rw [hsecond] at hok htokens
  exact ⟨r, hr, hok.2 (by decide), htokens (by decide) (by decide)⟩

end Admission.Window
