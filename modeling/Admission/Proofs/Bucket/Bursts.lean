/-
# Bursts

A bucket that is asked again and again while no time passes gives one token after the other, and
then no more (`burst_admits_quota`).  Up to a quota of 2⁵³ nothing is rounded on the way: the bucket
holds a whole number of tokens, and taking one leaves the whole number below it.
-/
import Admission.Proofs.Binary64.Whole
import Admission.Proofs.Bucket.Uses

namespace Admission.Bucket

open Binary64 (one whole)

variable {b : Bucket} {p : Plan} {now last : Instant} {times : List Instant} {n : Nat}

/-! ## One reservation -/

/-- A bucket with whole tokens gives one of them and keeps the others. -/
lemma reserve_whole_succ (hn : n + 1 ≤ 2 ^ 53) (hle : now.nanos ≤ last.nanos) :
    reserve ⟨whole (n + 1), some last⟩ p now = (⟨whole n, some last⟩, some (.grant n)) := by
  have hone : one ≤ whole (n + 1) := by
    rw [Binary64.one_eq_whole, Binary64.whole_le_whole]
    omega
  have hleft : whole (n + 1) - one = whole n := by
    rw [Binary64.one_eq_whole, Binary64.whole_sub_whole, Nat.add_sub_cancel]
    exact Binary64.ofNat_eq_whole (Binary64.exact_of_lt (by omega))
  have hreported : min (n : Int) maxReported = n := by
    have hmax : maxReported = 2 ^ 63 - 1 := rfl
    omega
  rw [reserve, refill_of_passed rfl hle]
  dsimp only
  rw [if_pos hone, hleft, Binary64.floor_whole, hreported]

/-! ## Bursts -/

/-- A burst takes the tokens one by one. -/
lemma burst_of_whole (hn : n ≤ 2 ^ 53) (htimes : ∀ t ∈ times, t.nanos ≤ last.nanos) :
    ∀ place answer,
      (reservations p ⟨whole n, some last⟩ (times.map .reserve))[place]? = some answer →
      (place < n → answer = some (.grant (n - 1 - place : Nat))) ∧
        (n ≤ place → ∀ r, answer = some r → r.isOk = false) := by
  induction times generalizing n with
  | nil =>
    intro place answer h
    simp [reservations] at h
  | cons t times ih =>
    have ht : t.nanos ≤ last.nanos := htimes t List.mem_cons_self
    have hrest : ∀ t ∈ times, t.nanos ≤ last.nanos :=
      fun t ht => htimes t (List.mem_cons_of_mem _ ht)
    intro place answer h
    rw [List.map_cons, reservations] at h
    cases n with
    | zero =>
      have hfilled := refill_of_passed (b := ⟨whole 0, some last⟩) (p := p) rfl ht
      have hmissing : ¬ one ≤ whole 0 := by
        rw [Binary64.one_eq_whole, Binary64.whole_le_whole]
        omega
      have hmissing' : ¬ one ≤ (refill ⟨whole 0, some last⟩ p t).tokens := by rwa [hfilled]
      rw [fst_reserve_of_missing hmissing', hfilled] at h
      refine ⟨fun hlt => absurd hlt (by omega), fun _ => ?_⟩
      cases place with
      | zero =>
        rw [List.getElem?_cons_zero] at h
        intro r hr
        exact rejects_of_missing hmissing' ((Option.some.inj h).trans hr)
      | succ place =>
        rw [List.getElem?_cons_succ] at h
        exact (ih (Nat.zero_le _) hrest place answer h).2 (Nat.zero_le _)
    | succ n =>
      rw [reserve_whole_succ hn ht] at h
      cases place with
      | zero =>
        rw [List.getElem?_cons_zero] at h
        exact ⟨fun _ => (Option.some.inj h).symm, fun hle => absurd hle (by omega)⟩
      | succ place =>
        rw [List.getElem?_cons_succ] at h
        obtain ⟨hadmitted, hrejected⟩ := ih (by omega) hrest place answer h
        refine ⟨fun hlt => ?_, fun hle => hrejected (by omega)⟩
        rw [hadmitted (by omega)]
        congr 3
        omega

lemma length_reservations (p : Plan) (b : Bucket) (times : List Instant) :
    (reservations p b (times.map .reserve)).length = times.length := by
  induction times generalizing b with
  | nil => rfl
  | cons t times ih => rw [List.map_cons, reservations, List.length_cons, List.length_cons, ih]

/-- A new bucket is full when it is first used, whether or not time has passed since it was made. -/
lemma refill_new (quota : UInt64) (interval : Duration) (made : Option Instant) (now : Instant) :
    ∃ last : Instant, now.nanos ≤ last.nanos ∧
      (new (.make quota interval) made).refill (.make quota interval) now =
        ⟨.ofNat quota.toNat, some last⟩ := by
  obtain ⟨last, hlast, hle⟩ := refilledAt_refill_ge (new (.make quota interval) made)
    (.make quota interval) now
  have hlevel := tokens_refill_of_full (b := new (.make quota interval) made)
    (exact_capacity quota interval) rfl now
  refine ⟨last, hle, ?_⟩
  cases hfilled : (new (.make quota interval) made).refill (.make quota interval) now
  simp only [hfilled] at hlast hlevel
  rw [hlast, hlevel]
  rfl

/-- **A burst gets exactly the quota.**  A new bucket with a quota of up to 2⁵³ is asked for tokens,
again and again, at instants of which none is later than the first.  Then as many requests as the
quota allows are admitted, with the tokens counted down to none, and no later one is. -/
theorem burst_admits_quota {quota : UInt64} (interval : Duration) (made : Option Instant)
    {first : Instant} (hquota : quota.toNat ≤ 2 ^ 53)
    (htimes : ∀ t ∈ times, t.nanos ≤ first.nanos) :
    let p := Plan.make quota interval
    let answers := reservations p (new p made) ((first :: times).map .reserve)
    answers.length = times.length + 1 ∧
      ∀ place answer, answers[place]? = some answer →
        (place < quota.toNat → answer = some (.grant (quota.toNat - 1 - place : Nat))) ∧
        (quota.toNat ≤ place → ∀ r, answer = some r → r.isOk = false) := by
  intro p answers
  refine ⟨length_reservations p (new p made) (first :: times), ?_⟩
  obtain ⟨last, hfirst, hfilled⟩ := refill_new quota interval made first
  have hexact : Binary64.Exact quota.toNat := by
    rcases Nat.lt_or_eq_of_le hquota with hlt | heq
    · exact Binary64.exact_of_lt hlt
    · exact heq ▸ Binary64.exact_two_pow 53
  rw [Binary64.ofNat_eq_whole hexact] at hfilled
  -- from its first use on the bucket cannot be told from one that was filled then
  have hreserve : (new p made).reserve p first = reserve ⟨whole quota.toNat, some last⟩ p first :=
    reserve_congr (hfilled.trans (refill_of_passed rfl hfirst).symm)
  have hanswers : answers =
      reservations p ⟨whole quota.toNat, some last⟩ ((first :: times).map .reserve) := by
    simp only [answers, List.map_cons, reservations, hreserve]
  rw [hanswers]
  refine burst_of_whole hquota fun t ht => ?_
  rcases List.mem_cons.1 ht with rfl | ht
  · exact hfirst
  · exact Nat.le_trans (htimes t ht) hfirst

/-- Of four requests on a clock that goes back after the first, the third gets the last token. -/
theorem burst_on_a_clock_that_goes_back :
    let p := Plan.make 3 (.ofSeconds 1)
    let times : List Instant := [⟨4⟩, ⟨7⟩, ⟨10⟩]
    let answers := reservations p (new p (some ⟨5⟩)) ((⟨10⟩ :: times).map .reserve)
    (∀ t ∈ times, t.nanos ≤ 10) ∧ answers[2]? = some (some (.grant 0)) ∧
      ∃ r, answers[3]? = some (some r) ∧ r.isOk = false := by
  intro p times answers
  have htimes : ∀ t ∈ times, t.nanos ≤ 10 := by decide
  have hquota : (3 : UInt64).toNat ≤ 2 ^ 53 := by decide
  obtain ⟨hlength, hanswers⟩ :=
    burst_admits_quota (.ofSeconds 1) (some ⟨5⟩) hquota htimes
  have hthird : answers[2]? = some answers[2] := List.getElem?_eq_getElem _
  have hfourth : answers[3]? = some (some (.reject ⟨333333333⟩)) := by decide +kernel
  refine ⟨htimes, hthird.trans (congrArg some ?_), _, hfourth, ?_⟩
  · exact (hanswers 2 _ hthird).1 (by decide)
  · exact (hanswers 3 _ hfourth).2 (by decide) _ rfl

end Admission.Bucket
