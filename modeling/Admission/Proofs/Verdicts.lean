/-
# Verdicts

A reservation has no field that says whether the request is admitted: it is if there is no delay.
So a rejection must never come without one.  Here this is proved of both kinds of limiters, whatever
delay was worked out and whatever the store reports: a reservation without delay is one for which a
token was taken, and any other one tells the caller to wait for a second at least
(`isOk_tells_admission`).
-/
import Admission.Proofs.Bucket.Readings
import Admission.Proofs.Router.Asking
import Admission.Proofs.Window.Quota
import Mathlib.Order.Bounds.Defs

namespace Admission

/-! ## Rejections -/

namespace Reservation

/-- What a caller whose request is not admitted is told: no token is left, and there is a time to
wait that is not rounded down to nothing. -/
structure Refuses (r : Reservation) : Prop where
  tokens_eq : r.tokens = 0
  minDelay_le : 1000000 ≤ r.delay.nanos
  one_le_retryAfter : 1 ≤ r.retryAfter

/-- Waiting for a number of seconds is enough exactly if the delay is not longer than that. -/
lemma retryAfter_le_iff (r : Reservation) (n : ℕ) :
    r.retryAfter ≤ n ↔ r.delay.nanos ≤ n * 1000000000 := by
  rw [retryAfter, Duration.subsecondNanos, Duration.seconds]
  split <;> omega

lemma isLeast_retryAfter (r : Reservation) :
    IsLeast {n : ℕ | r.delay.nanos ≤ n * 1000000000} r.retryAfter :=
  ⟨(r.retryAfter_le_iff _).1 le_rfl, fun n hn => (r.retryAfter_le_iff n).2 hn⟩

lemma refuses_reject (delay : Duration) : (reject delay).Refuses := by
  have hdelay : 1000000 ≤ (reject delay).delay.nanos := Nat.le_max_right _ _
  refine ⟨tokens_reject delay, hdelay, Nat.pos_of_ne_zero fun hzero => ?_⟩
  have hnone := ((reject delay).retryAfter_le_iff 0).1 hzero.le
  omega

end Reservation

/-! ## Buckets -/

namespace Bucket

open Binary64 (one whole)

variable {b : Bucket} {p : Plan} {now : Instant} {r : Reservation}

lemma isOk_iff_of_reserve (hanswer : (b.reserve p now).2 = some r) :
    r.isOk = true ↔ one ≤ (b.refill p now).tokens := by
  rw [← admits_reserve_iff, hanswer]
  rfl

lemma refuses_of_reserve (hanswer : (b.reserve p now).2 = some r) (hrejected : r.isOk = false) :
    r.Refuses := by
  have hmissing : ¬ one ≤ (b.refill p now).tokens := by
    rw [← isOk_iff_of_reserve hanswer, hrejected]
    exact Bool.false_ne_true
  by_cases hrate : Binary64.zero < p.rate
  · rw [snd_reserve_of_missing hmissing hrate] at hanswer
    obtain ⟨delay, -, rfl⟩ := Option.map_eq_some_iff.1 hanswer
    exact Reservation.refuses_reject delay
  · rw [snd_reserve_of_dry hmissing hrate] at hanswer
    obtain rfl := Option.some.inj hanswer
    exact Reservation.refuses_reject p.interval

end Bucket

/-! ## Windows -/

namespace Window

lemma Limiter.refuses_judge {l : Limiter} {c : Count} (hrejected : (l.judge c).isOk = false) :
    (l.judge c).Refuses := by
  rw [judge] at hrejected ⊢
  split
  · rename_i hcount
    rw [if_pos hcount, Reservation.isOk_grant] at hrejected
    exact absurd hrejected (by simp)
  · exact Reservation.refuses_reject c.ttl

end Window

/-! ## Both limiters -/

open Bucket (Use)
open Binary64 (one whole)
open Window (Ask Attempt Count)

/-- **A reservation tells whether the request is admitted.**  However a bucket has been used, a
reservation that it answers is without delay exactly if the bucket, once refilled, held a token and
the reservation took one from it; up to 2⁵³ tokens that leaves exactly one fewer.  Whatever a store
counts, a limiter over it answers each count, without delay exactly if the count is at most the
quota.  All other reservations refuse, even if the delay comes out as nothing.  The seconds to wait
are always the least number that covers the delay, and they fit 64 bits whenever such a number
does. -/
theorem isOk_tells_admission :
    (∀ (quota : UInt64) (interval : Duration) (made : Option Instant) (uses : List Use)
      (now : Instant) (r : Reservation),
      let p := Bucket.Plan.make quota interval
      let b := uses.foldl (Bucket.next p) (Bucket.new p made)
      let level := (b.refill p now).tokens
      (b.reserve p now).2 = some r →
        (r.isOk = true ↔ one ≤ level ∧ (b.reserve p now).1.tokens = level - one) ∧
        (one ≤ level → level ≤ whole (2 ^ 53) → (level - one).toRat = level.toRat - 1) ∧
        (r.isOk = false → (b.reserve p now).1 = b.refill p now ∧ r.Refuses)) ∧
    (∀ {σ : Type} (store : σ → Ask → σ × Attempt) (s : σ) (l : Window.Limiter) (event : String)
      (c : Count), (store s (l.ask event)).2 = .counted c →
        ∃ r, (l.reserveFrom store event s).2 = .ok r ∧
          (r.isOk = true ↔ c.count ≤ l.quota.toNat) ∧ (r.isOk = false → r.Refuses)) ∧
    ∀ r : Reservation, IsLeast {n : ℕ | r.delay.nanos ≤ n * 1000000000} r.retryAfter ∧
      (r.delay.nanos ≤ (UInt64.size - 1) * 1000000000 → r.retryAfter < UInt64.size) := by
  refine ⟨?_, ?_, fun r => ⟨r.isLeast_retryAfter, fun hdelay => ?_⟩⟩
  · intro quota interval made uses now r p b level hanswer
    have hok : r.isOk = true ↔ one ≤ level := Bucket.isOk_iff_of_reserve hanswer
    refine ⟨?_, fun hlow hhigh => ?_, fun hrejected => ⟨?_, ?_⟩⟩
    · rw [hok]
      refine ⟨fun htoken => ⟨htoken, ?_⟩, And.left⟩
      rw [Bucket.fst_reserve_of_token htoken]
    · -- whatever has been done with a bucket, it holds a number of the format
      have hcapacity := Bucket.exact_capacity quota interval
      have hexact := Bucket.exact_foldl_next (b := Bucket.new p made) hcapacity hcapacity uses
      exact Binary64.toRat_sub_one (Bucket.exact_refill hcapacity hexact now) hlow hhigh
    · refine Bucket.fst_reserve_of_missing fun htoken => ?_
      rw [hok.2 htoken] at hrejected
      exact Bool.false_ne_true hrejected.symm
    · exact Bucket.refuses_of_reserve hanswer hrejected
  · intro σ store s l event c hcounted
    refine ⟨l.judge c, ?_, Window.isOk_judge l c, Window.Limiter.refuses_judge⟩
    rw [Window.Limiter.snd_reserveFrom, hcounted]
    rfl
  · have := (r.retryAfter_le_iff (UInt64.size - 1)).2 hdelay
    have : 0 < UInt64.size := by decide
    omega

/-- Two seconds after a bucket with five tokens a minute was emptied, it is asked whether it is
full.  Ten seconds later, when the next token is due, what rounding has lost shows: the token is not
there, and the delay comes out as no nanosecond.  The caller is told to wait all the same, as is one
of a store that counts too many requests and says that the window has ended. -/
theorem isOk_tells_rejection_without_delay :
    let p := Bucket.Plan.make 5 ⟨60000000000⟩
    let uses := List.replicate 5 (Use.reserve ⟨0⟩) ++ [.isFull ⟨2000000000⟩]
    let b := uses.foldl (Bucket.next p) (Bucket.new p (some ⟨0⟩))
    let now : Instant := ⟨12000000000⟩
    let l : Window.Limiter := ⟨"logins", ⟨60000000000⟩, 5, none⟩
    let overdue : Unit → Ask → Unit × Attempt := fun s _ => (s, .counted ⟨6, ⟨0⟩, 0⟩)
    (Duration.ofSeconds? ((one - (b.refill p now).tokens) / p.rate) = some ⟨0⟩ ∧
      (b.reserve p now).2 = some (.reject ⟨0⟩) ∧ (b.reserve p now).1 = b.refill p now ∧
      (Reservation.reject ⟨0⟩).Refuses) ∧
    ∃ r, (l.reserveFrom overdue "alice" ()).2 = .ok r ∧ r.isOk = false ∧ r.Refuses := by
  intro p uses b now l overdue
  have hanswer : (b.reserve p now).2 = some (.reject ⟨0⟩) := by decide +kernel
  have hrejected := Reservation.isOk_reject ⟨0⟩
  obtain ⟨r, hr, hok, hrefuses⟩ := isOk_tells_admission.2.1 overdue () l "alice" ⟨6, ⟨0⟩, 0⟩ rfl
  have hover : r.isOk = false := Bool.eq_false_iff.2 fun h => absurd (hok.1 h) (by decide)
  have hbucket := isOk_tells_admission.1 5 ⟨60000000000⟩ (some ⟨0⟩) uses now _ hanswer
  obtain ⟨hkept, hrefused⟩ := hbucket.2.2 hrejected
  exact ⟨⟨by decide +kernel, hanswer, hkept, hrefused⟩, r, hr, hover, hrefuses hover⟩

end Admission
