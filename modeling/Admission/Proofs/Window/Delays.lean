/-
# Delays of fixed windows

A rejection tells the time to the deadline of its record.  Every deadline has been set by an
increment (`setIn_run`), and on a clock that shows whole milliseconds each increment of a window
sets the same one, the end of the window.  So what a limiter answers is known from the number of
calls in the window and the time (`reserve_eq`): it rejects exactly if the window has no tokens left
(`reserve_outcome`).  Tokens do not come back within a window, and later windows start with all of
them.  Therefore a rejection is right about its delay: until then all calls for the event are
rejected, and the first one after it is admitted (`rejected_until_window_end`).
-/
import Admission.Proofs.Window.Quota

namespace Admission.Window

open Store (Step)

/-! ## Whole milliseconds -/

/-- The two clocks show the same whole millisecond, and it fits 64 bits with a sign.  This is
narrower than `Clock.InStep`, which has the monotonic clock anywhere inside the millisecond of the
wall clock.  What is left of a window is a whole number of milliseconds from the start of the
present one, so a counter that is made inside of it expires by that part of a millisecond behind the
end of the window, and the delay of a rejection leads there and not to the end.  On clocks that show
one time in milliseconds both are the same. -/
def Clock.Whole (c : Clock) : Prop :=
  c.now.nanos = c.wall.toNat * 1000000 ∧ c.wall.toNat < signedLimit

instance (c : Clock) : Decidable c.Whole :=
  inferInstanceAs (Decidable (_ ∧ _))

/-- The end of the window that the clock is in, where windows have this many milliseconds. -/
def Clock.windowEnd (c : Clock) (length : Nat) : Instant :=
  ⟨(c.wall.toNat / length + 1) * length * 1000000⟩

variable {clock clock' : Clock} {window : Duration}

lemma Clock.Whole.inStep (h : clock.Whole) : clock.InStep := by
  refine ⟨?_, h.2⟩
  rw [h.1, Nat.mul_div_cancel _ (by decide)]

/-- A window that is in progress has a millisecond left. -/
lemma Clock.Whole.add_le_windowEnd (h : clock.Whole) (window : Duration) :
    clock.now.nanos + 1000000 ≤ (clock.windowEnd (windowMillis window)).nanos := by
  have hlt := lt_windowEnd clock.wall.toNat window
  rw [h.1, windowEnd]
  dsimp only
  omega

/-- The deadline that an increment sets is the end of its window. -/
lemma Clock.Whole.add_left_eq (h : clock.Whole) (window : Duration) :
    clock.now.nanos + (position clock.wall window).left.nanos =
      (clock.windowEnd (windowMillis window)).nanos := by
  have hreach : InReach clock.wall window := inReach_of_lt h.2
  have hremaining := toNat_remaining hreach
  have hlt := lt_windowEnd clock.wall.toNat window
  rw [nanos_left, hremaining, h.1, windowEnd]
  dsimp only
  omega

/-- Instants of a window come before its end and are in no later window. -/
lemma Clock.Whole.lt_windowEnd_iff (h : clock'.Whole) :
    clock'.now.nanos < (clock.windowEnd (windowMillis window)).nanos ↔
      clock'.wall.toNat / windowMillis window ≤ clock.wall.toNat / windowMillis window := by
  have hpos := windowMillis_pos window
  rw [h.1, windowEnd, Nat.mul_lt_mul_right (by decide), ← Nat.div_lt_iff_lt_mul hpos,
    Nat.lt_succ_iff]

/-- Time that goes on and does not reach the end of the window stays in it. -/
lemma Clock.Whole.same_window (h : clock.Whole) (h' : clock'.Whole)
    (hle : clock.now.nanos ≤ clock'.now.nanos)
    (hlt : clock'.now.nanos < (clock.windowEnd (windowMillis window)).nanos) :
    clock'.wall.toNat / windowMillis window = clock.wall.toNat / windowMillis window := by
  have hwall : clock.wall.toNat ≤ clock'.wall.toNat := by
    rw [h.1, h'.1] at hle
    omega
  exact Nat.le_antisymm (h'.lt_windowEnd_iff.1 hlt) (Nat.div_le_div_right hwall)

/-- Clocks in the same window have the same end of it ahead. -/
lemma windowEnd_eq_of_epoch (h : (position clock.wall window).epoch =
    (position clock'.wall window).epoch) :
    clock.windowEnd (windowMillis window) = clock'.windowEnd (windowMillis window) := by
  rw [Clock.windowEnd, Clock.windowEnd, ← toNat_epoch, ← toNat_epoch, h]

/-! ## Deadlines -/

/-- Some increment of the key in the window with this number sets the deadline. -/
def SetIn (steps : List Step) (key : String) (epoch : UInt64) (deadline : Nat) : Prop :=
  ∃ window clock, .increment key window clock ∈ steps ∧
    (position clock.wall window).epoch = epoch ∧
    clock.now.nanos + (position clock.wall window).left.nanos = deadline

lemma SetIn.snoc {steps : List Step} {key : String} {epoch : UInt64} {deadline : Nat}
    (h : SetIn steps key epoch deadline) (step : Step) :
    SetIn (steps ++ [step]) key epoch deadline := by
  obtain ⟨window, clock, hmem, h⟩ := h
  exact ⟨window, clock, List.mem_append_left _ hmem, h⟩

/-- The deadline of a record was set by an increment of its key in its window, unless there was no
increment. -/
lemma setIn_run (steps : List Step) (key : String) (epoch : UInt64) :
    (Ledger.blank.run steps (key, epoch)).expiresAt.nanos = 0 ∨
      SetIn steps key epoch (Ledger.blank.run steps (key, epoch)).expiresAt.nanos := by
  induction steps using List.reverseRecOn with
  | nil => exact .inl rfl
  | append_singleton steps step ih =>
    rw [Ledger.run_snoc]
    by_cases hcounts : step.counts key epoch = true
    · obtain ⟨window, clock, rfl, rfl⟩ := Step.counts_eq_true_iff.1 hcounts
      rw [Ledger.next_increment_self, Ledger.renewed, Ledger.renew]
      split
      · -- the record is alive, and its deadline stays
        exact ih.imp_right fun h => h.snoc _
      · exact .inr ⟨window, clock, by simp, rfl, rfl⟩
    · rw [Ledger.next_of_not_counts (by simpa using hcounts)]
      exact ih.imp_right fun h => h.snoc _

/-- On clocks that show whole milliseconds the increments of a window all set the end of it. -/
lemma SetIn.eq_windowEnd {steps : List Step} {key : String} {deadline : Nat}
    (h : SetIn steps key (position clock.wall window).epoch deadline)
    (hwhole : ∀ window clock, .increment key window clock ∈ steps → clock.Whole)
    (hlength : ∀ window' clock', .increment key window' clock' ∈ steps →
      (position clock'.wall window').epoch = (position clock.wall window).epoch →
      windowMillis window' = windowMillis window) :
    deadline = (clock.windowEnd (windowMillis window)).nanos := by
  obtain ⟨window', clock', hmem, hepoch, rfl⟩ := h
  have hsame := hlength window' clock' hmem hepoch
  rw [(hwhole window' clock' hmem).add_left_eq, hsame]
  refine congrArg Instant.nanos (windowEnd_eq_of_epoch ?_)
  rw [← hepoch, ← UInt64.toNat_inj, toNat_epoch, toNat_epoch, hsame]

/-- An increment answers how many increments of its window there have been, with itself, and the
time to the end of the window. -/
lemma increment_eq {steps : List Step} {key : String}
    (htime : Timely (steps ++ [.increment key window clock]))
    (hwhole : ∀ window' clock',
      .increment key window' clock' ∈ steps ++ [.increment key window clock] → clock'.Whole)
    (h : Uniform key (position clock.wall window).epoch (windowMillis window)
      (steps ++ [.increment key window clock])) :
    ((Store.empty.run steps).increment key window clock).2 =
      ⟨steps.countP (Step.counts key (position clock.wall window).epoch) + 1,
        (clock.windowEnd (windowMillis window)).since clock.now,
        (position clock.wall window).epoch⟩ := by
  have hclock : clock.Whole := hwhole window clock (by simp)
  have hcount := count_increment htime hclock.inStep fun window' clock' hmem =>
    h window' clock' (List.mem_append_left _ hmem)
  have hanswer := Option.some.inj (answer_run_eq htime)
  have hahead := lt_expiresAt_renewed (Ledger.blank.run steps) key
    (inReach_of_lt hclock.2 : InReach clock.wall window)
  have hset := setIn_run (steps ++ [.increment key window clock]) key
    (position clock.wall window).epoch
  rw [Ledger.run_snoc, Ledger.next_increment_self] at hset
  have hdeadline := (hset.resolve_left (by omega)).eq_windowEnd hwhole fun window' clock' hmem he =>
    (h window' clock' hmem he).1
  rw [hanswer] at hcount ⊢
  dsimp only at hcount
  rw [hcount, hdeadline]
  rfl

/-! ## Reservations -/

/-- Whether a call reaches the store for a key. -/
def Call.asks (key : String) : Call → Bool
  | .reserve l event .up _ => (l.ask event).key == key
  | _ => false

lemma Call.reaches_iff {key : String} {length epoch : Nat} {call : Call} :
    call.reaches key length epoch = true ↔
      call.asks key = true ∧ call.clock.wall.toNat / length = epoch := by
  cases call with
  | reserve l event link clock =>
    cases link with
    | up => simp [Call.reaches, Call.asks, Call.clock]
    | failing e => simp [Call.reaches, Call.asks]
    | stalled => simp [Call.reaches, Call.asks]
  | sweep clock => simp [Call.reaches, Call.asks]

/-- The shortest delay of a rejection does not change the time to the end of a window. -/
lemma Clock.Whole.delay_reject (h : clock.Whole) (window : Duration) :
    (Reservation.reject ((clock.windowEnd (windowMillis window)).since clock.now)).delay =
      (clock.windowEnd (windowMillis window)).since clock.now := by
  have hleft := h.add_le_windowEnd window
  have hmin : Reservation.minDelay.nanos = 1000000 := rfl
  refine congrArg Duration.mk (Nat.max_eq_left ?_)
  rw [hmin, Instant.since]
  dsimp only
  omega

lemma Clock.Whole.after_since (h : clock.Whole) (window : Duration) :
    clock.now.after ((clock.windowEnd (windowMillis window)).since clock.now) =
      clock.windowEnd (windowMillis window) := by
  have hleft := h.add_le_windowEnd window
  have hle : clock.now.nanos ≤ (clock.windowEnd (windowMillis window)).nanos := by omega
  exact congrArg Instant.mk (Nat.add_sub_of_le hle)

/-- A run in order, on clocks that show whole milliseconds, in which all limiters that are asked for
a key have this interval and this quota. -/
structure Regular (key : String) (interval : Duration) (quota : UInt64) (calls : List Call) :
    Prop where
  inOrder : InOrder calls
  whole : ∀ call ∈ calls, call.clock.Whole
  alike : ∀ l event link clock, .reserve l event link clock ∈ calls → (l.ask event).key = key →
    l.interval = interval ∧ l.quota = quota

lemma Regular.sublist {key : String} {interval : Duration} {quota : UInt64}
    {calls calls' : List Call} (h : Regular key interval quota calls)
    (hsub : calls'.Sublist calls) : Regular key interval quota calls' where
  inOrder := List.Pairwise.sublist hsub h.inOrder
  whole call hcall := h.whole call (hsub.subset hcall)
  alike l event link clock hmem := h.alike l event link clock (hsub.subset hmem)

/-- What a limiter answers is known from the number of calls that have reached the store for the key
in the window, with this one, and from the time. -/
lemma reserve_eq {calls : List Call} {l : Limiter} {event : String}
    (h : Regular (l.ask event).key l.interval l.quota
      (calls ++ [.reserve l event .up clock])) :
    let length := windowMillis l.interval
    let k := calls.countP (Call.reaches (l.ask event).key length (clock.wall.toNat / length)) + 1
    (l.reserve event ((Shared.fresh.run calls).onward .up clock)).2 =
      .ok (if k ≤ l.quota.toNat then .grant (Limiter.signed64 (l.quota.toNat - k))
        else .reject ((clock.windowEnd length).since clock.now)) := by
  intro length k
  have hinterval : ∀ l' event' link clock',
      .reserve l' event' link clock' ∈ calls ++ [Call.reserve l event .up clock] →
      (l'.ask event').key = (l.ask event).key → l'.interval = l.interval :=
    fun l' event' link clock' hmem hkey => (h.alike l' event' link clock' hmem hkey).1
  have htimely := timely_calls h.inOrder
  have huniform : Uniform (l.ask event).key (position clock.wall l.interval).epoch
      (windowMillis l.interval) _ :=
    uniform_step? (fun call hcall => (h.whole call hcall).inStep) hinterval
  have hwhole : ∀ window clock', .increment (l.ask event).key window clock' ∈
      (calls ++ [Call.reserve l event .up clock]).filterMap Call.step? → clock'.Whole := by
    intro window clock' hmem
    obtain ⟨l', event', hcall, -⟩ := Call.increment_mem_filterMap_iff.1 hmem
    exact h.whole _ hcall
  have hsteps : (calls ++ [Call.reserve l event .up clock]).filterMap Call.step? =
      calls.filterMap Call.step? ++ [.increment (l.ask event).key l.interval clock] :=
    List.filterMap_append
  rw [hsteps] at htimely huniform hwhole
  have hcount := increment_eq htimely hwhole huniform
  rw [countP_step? fun l' event' link clock' hmem =>
    hinterval l' event' link clock' (List.mem_append_left _ hmem)] at hcount
  have hstore : (Shared.fresh.run calls).store = Store.empty.run (calls.filterMap Call.step?) :=
    store_run Shared.fresh calls
  rw [reserve_up, hstore, hcount]
  rfl

/-! ## Windows without tokens -/

section Spent

variable {key : String} {interval : Duration} {quota : UInt64} {calls : List Call}

/-- The calls for a key have used up the quota in the window that the clock is in. -/
def Spent (key : String) (interval : Duration) (quota : UInt64) (clock : Clock)
    (calls : List Call) : Prop :=
  quota.toNat ≤ calls.countP
    (Call.reaches key (windowMillis interval) (clock.wall.toNat / windowMillis interval))

/-- More calls do not bring tokens back. -/
lemma Spent.append (h : Spent key interval quota clock calls) (more : List Call) :
    Spent key interval quota clock (calls ++ more) := by
  rw [Spent, List.countP_append]
  exact Nat.le_add_right_of_le h

/-- Calls before a window leave it all its tokens. -/
lemma not_spent (hquota : 0 < quota.toNat) (hclock : ∀ call ∈ calls, call.clock.Whole)
    (hbefore : ∀ call ∈ calls, call.asks key = true →
      call.clock.now.nanos < (clock.windowEnd (windowMillis interval)).nanos)
    (hafter : clock.wall.toNat / windowMillis interval <
      clock'.wall.toNat / windowMillis interval) :
    ¬ Spent key interval quota clock' calls := by
  have hnone : calls.countP (Call.reaches key (windowMillis interval)
      (clock'.wall.toNat / windowMillis interval)) = 0 := by
    rw [List.countP_eq_zero]
    intro call hcall hreaches
    obtain ⟨hasks, hepoch⟩ := Call.reaches_iff.1 hreaches
    have hle := (hclock call hcall).lt_windowEnd_iff.1 (hbefore call hcall hasks)
    omega
  rw [Spent, hnone]
  omega

/-- A call is rejected if and only if its window has no tokens left, and then for the rest of the
window. -/
lemma reserve_outcome {l : Limiter} {event : String}
    (h : Regular key interval quota (calls ++ [.reserve l event .up clock]))
    (hkey : (l.ask event).key = key) :
    ∃ r, (l.reserve event ((Shared.fresh.run calls).onward .up clock)).2 = .ok r ∧
      (r.isOk = false ↔ Spent key interval quota clock calls) ∧
      (r.isOk = false → r.delay = (clock.windowEnd (windowMillis interval)).since clock.now) := by
  have hwhole : clock.Whole := h.whole (.reserve l event .up clock) (by simp)
  obtain ⟨rfl, rfl⟩ := h.alike l event .up clock (by simp) hkey
  subst hkey
  refine ⟨_, reserve_eq h, ?_, ?_⟩
  · rw [Spent]
    split
    · simp only [Reservation.isOk_grant, Bool.true_eq_false, false_iff]
      omega
    · simp only [Reservation.isOk_reject, true_iff]
      omega
  · split
    · simp
    · exact fun _ => hwhole.delay_reject l.interval

end Spent

/-- A call and all earlier ones come before the end of its window.  So if the later calls for a key
do, every call for the key does. -/
lemma asks_before_windowEnd {key : String} {interval : Duration} {quota : UInt64}
    {before between : List Call} {call : Call}
    (h : Regular key interval quota (before ++ [call]))
    (hbetween : ∀ c ∈ between, c.asks key = true →
      c.clock.now.nanos < (call.clock.windowEnd (windowMillis interval)).nanos) :
    ∀ c ∈ before ++ call :: between, c.asks key = true →
      c.clock.now.nanos < (call.clock.windowEnd (windowMillis interval)).nanos := by
  have hleft := (h.whole call (by simp)).add_le_windowEnd interval
  intro c hc hasks
  rcases List.mem_append.1 hc with hc | hc
  · have hearly : c.clock.now.nanos ≤ call.clock.now.nanos :=
      (List.pairwise_append.1 h.inOrder).2.2 c hc call (by simp)
    omega
  · rcases List.mem_cons.1 hc with rfl | hc
    · omega
    · exact hbetween c hc hasks

/-- **Rejections are right about their delays.**  The clocks show one time in whole milliseconds
(`Clock.Whole`); at an instant inside of a millisecond a delay may lead past the end of the window,
by less than a millisecond.  When a call is rejected, its delay ends with its window.  Until then
all calls for the key that reach the store are rejected for the time that is left, and the first one
that reaches it then or later is admitted, whatever happens in between to other keys and in
sweeps. -/
theorem rejected_until_window_end {before after : List Call} {l : Limiter} {event : String}
    {clock : Clock} {r : Reservation}
    (hrun : Regular (l.ask event).key l.interval l.quota
      (before ++ .reserve l event .up clock :: after))
    (hquota : 0 < l.quota.toNat)
    (hanswer : (l.reserve event ((Shared.fresh.run before).onward .up clock)).2 = .ok r)
    (hrejected : r.isOk = false) :
    let finish := clock.now.after r.delay
    finish = clock.windowEnd (max 1 (l.interval.millis % UInt64.size)) ∧
      ∀ between l' event' clock' rest,
        after = between ++ .reserve l' event' .up clock' :: rest →
        (l'.ask event').key = (l.ask event).key →
        let s := Shared.fresh.run (before ++ .reserve l event .up clock :: between)
        ∃ r', (l'.reserve event' (s.onward .up clock')).2 = .ok r' ∧
          (clock'.now.nanos < finish.nanos →
            r'.isOk = false ∧ r'.delay = finish.since clock'.now) ∧
          (finish.nanos ≤ clock'.now.nanos →
            (∀ call ∈ between, call.asks (l.ask event).key = true →
              call.clock.now.nanos < finish.nanos) →
            r'.isOk = true) := by
  intro finish
  set call := Call.reserve l event .up clock with hcall
  have hwhole : clock.Whole := hrun.whole call (by simp)
  have hfirst : Regular (l.ask event).key l.interval l.quota (before ++ [call]) :=
    hrun.sublist (by simp)
  obtain ⟨_, hok, hspent, hdelay⟩ := reserve_outcome hfirst rfl
  obtain rfl : r = _ := Except.ok.inj (hanswer.symm.trans hok)
  have hfinish : finish = clock.windowEnd (windowMillis l.interval) := by
    rw [← hwhole.after_since, ← hdelay hrejected]
  refine ⟨hfinish, ?_⟩
  rintro between l' event' clock' rest rfl hkey s
  rw [hfinish]
  set later := Call.reserve l' event' .up clock' with hlater
  have hwhole' : clock'.Whole := hrun.whole later (by simp)
  have hlate : clock.now.nanos ≤ clock'.now.nanos :=
    List.rel_of_pairwise_cons (List.pairwise_append.1 hrun.inOrder).2.1 (by simp : later ∈ _)
  have hsecond : Regular (l.ask event).key l.interval l.quota
      ((before ++ call :: between) ++ [later]) :=
    hrun.sublist (by simp)
  obtain ⟨r', hok', hspent', hdelay'⟩ := reserve_outcome hsecond hkey
  refine ⟨r', hok', ?_, ?_⟩
  · -- the window is the same one, and its tokens have been used up
    intro hbefore
    have hsame := hwhole.same_window hwhole' hlate hbefore
    have hrejected' : r'.isOk = false := by
      rw [hspent', Spent, hsame]
      exact (hspent.1 hrejected).append (call :: between)
    refine ⟨hrejected', ?_⟩
    rw [hdelay' hrejected', Clock.windowEnd, Clock.windowEnd, hsame]
  · -- the window is a later one, and this is its first call for the key
    intro hafter hbetween
    have hnext := Nat.not_le.1 (mt hwhole'.lt_windowEnd_iff.2 (Nat.not_lt.2 hafter))
    have hcalls := asks_before_windowEnd hfirst hbetween
    have hwholes := (hsecond.sublist (List.sublist_append_left _ _)).whole
    rw [← Bool.not_eq_false, hspent']
    exact not_spent hquota hwholes hcalls hnext

/-- A millisecond before the end of the window the event is still rejected, for that millisecond,
and at its end it is admitted; meanwhile another event is admitted, a call fails and expired
counters are swept out. -/
theorem rejected_for_last_millisecond :
    let l : Limiter := ⟨"svc", .ofSeconds 60, 1, none⟩
    let before : List Call := [.reserve l "u" .up ⟨59000, ⟨59000000000⟩⟩]
    let clock : Clock := ⟨59500, ⟨59500000000⟩⟩
    let between : List Call := [.reserve l "v" .up ⟨59600, ⟨59600000000⟩⟩,
      .reserve l "u" (.failing (.store "down")) ⟨59700, ⟨59700000000⟩⟩,
      .sweep ⟨59800, ⟨59800000000⟩⟩]
    let last : Clock := ⟨59999, ⟨59999000000⟩⟩
    let first : Clock := ⟨60000, ⟨60000000000⟩⟩
    let s := Shared.fresh.run (before ++ .reserve l "u" .up clock :: between)
    let s' := Shared.fresh.run
      (before ++ .reserve l "u" .up clock :: (between ++ [.reserve l "u" .up last]))
    (∃ r, (l.reserve "u" (s.onward .up last)).2 = .ok r ∧ r.isOk = false ∧
      r.delay = .ofMillis 1) ∧
    ∃ r, (l.reserve "u" (s'.onward .up first)).2 = .ok r ∧ r.isOk = true := by
  intro l before clock between last first s s'
  set after := between ++ [.reserve l "u" .up last, .reserve l "u" .up first] with hafter
  have hrun : Regular (l.ask "u").key l.interval l.quota
      (before ++ .reserve l "u" .up clock :: after) := by
    refine ⟨by decide +kernel, by decide +kernel, ?_⟩
    intro l' event link clock' hmem _
    simp only [before, after, between, List.cons_append, List.nil_append, List.mem_cons,
      Call.reserve.injEq, List.not_mem_nil, reduceCtorEq, or_false, false_or] at hmem
    rcases hmem with ⟨rfl, -⟩ | ⟨rfl, -⟩ | ⟨rfl, -⟩ | ⟨rfl, -⟩ | ⟨rfl, -⟩ | ⟨rfl, -⟩ <;>
      exact ⟨rfl, rfl⟩
  have hfirst : Regular (l.ask "u").key l.interval l.quota
      (before ++ [.reserve l "u" .up clock]) := hrun.sublist (by simp)
  obtain ⟨r, hanswer, hspent, hdelay⟩ := reserve_outcome hfirst rfl
  have hused : before.countP (Call.reaches (l.ask "u").key (windowMillis l.interval)
      (clock.wall.toNat / windowMillis l.interval)) = 1 := by decide +kernel
  have hrejected : r.isOk = false := by
    rw [hspent, Spent, hused]
    decide
  have hend : clock.now.after r.delay = ⟨60000000000⟩ := by
    rw [hdelay hrejected]
    decide
  obtain ⟨-, hlater⟩ := rejected_until_window_end hrun (by decide) hanswer hrejected
  simp only [hend] at hlater
  obtain ⟨r, hr, hstill, -⟩ := hlater between l "u" last [.reserve l "u" .up first] rfl rfl
  obtain ⟨r', hr', -, hadmitted⟩ := hlater (between ++ [.reserve l "u" .up last]) l "u" first []
    rfl rfl
  have hleft : Instant.since ⟨60000000000⟩ last.now = .ofMillis 1 := by decide
  rw [hleft] at hstill
  refine ⟨⟨r, hr, hstill (by decide)⟩, r', hr', hadmitted (by decide) ?_⟩
  intro call hcall _
  simp only [between, List.cons_append, List.nil_append, List.mem_cons, List.not_mem_nil,
    or_false] at hcall
  rcases hcall with rfl | rfl | rfl | rfl <;> decide

end Admission.Window
