/-
# The level of a bucket

While time does not go back, a bucket holds at most its capacity and was last refilled in the
past (`Sound`).  A sound bucket that turns out to be full when it is refilled holds exactly its
capacity, and from then on it cannot be told from a bucket that has not been used
(`refill_capacity`): both are full, and what they add when they are refilled does not matter.

What a reservation does is said once, with an equation for each of its outcomes.
-/
import Admission.Bucket
import Admission.Proofs.Binary64.Rounding

namespace Admission.Bucket

variable {b b' : Bucket} {p : Plan} {now last : Instant}

/-- The capacity of a plan is a number of the format. -/
lemma exact_capacity (quota : UInt64) (interval : Duration) :
    Binary64.Exact (Plan.make quota interval).capacity.units :=
  Binary64.exact_ofNat _

/-- A bucket as it can stand at an instant: it holds at most its capacity, and it was not refilled
at a later instant. -/
structure Sound (b : Bucket) (p : Plan) (now : Instant) : Prop where
  tokens_le : b.tokens ≤ p.capacity
  refilled_le : ∀ last, b.refilledAt = some last → last.nanos ≤ now.nanos

lemma sound_full (p : Plan) (now : Instant) : (full p).Sound p now :=
  ⟨Nat.le_refl _, fun _ h => absurd h (by simp [full])⟩

lemma Sound.later {later : Instant} (h : b.Sound p now) (hle : now.nanos ≤ later.nanos) :
    b.Sound p later :=
  ⟨h.tokens_le, fun last hlast => Nat.le_trans (h.refilled_le last hlast) hle⟩

/-! ## Refilling -/

/-- An instant that is not later than the last refill adds nothing. -/
lemma refill_of_passed (h : b.refilledAt = some last) (hle : now.nanos ≤ last.nanos) :
    b.refill p now = b := by
  have hpassed : now.isAfter last = false := decide_eq_false (by omega)
  rw [refill, h]
  dsimp only
  rw [hpassed]
  exact if_neg Bool.false_ne_true

lemma refilledAt_refill_ge (b : Bucket) (p : Plan) (now : Instant) :
    ∃ last, (b.refill p now).refilledAt = some last ∧ now.nanos ≤ last.nanos := by
  rw [refill]
  split
  · exact ⟨now, rfl, Nat.le_refl _⟩
  · rename_i last hlast
    split
    · exact ⟨now, rfl, Nat.le_refl _⟩
    · rename_i hpassed
      simp only [Instant.isAfter, decide_eq_true_eq] at hpassed
      exact ⟨last, hlast, by omega⟩

/-- A refill does not fill a bucket above its capacity, at whatever instant it comes. -/
lemma tokens_refill_le (h : b.tokens ≤ p.capacity) (now : Instant) :
    (b.refill p now).tokens ≤ p.capacity := by
  rw [Bucket.refill]
  split
  · exact h
  · split
    · rw [Binary64.le_iff, Binary64.units_min]
      exact Nat.min_le_right _ _
    · exact h

/-- A bucket that holds all it can is not changed by what comes in. -/
lemma tokens_refill_of_full (hp : Binary64.Exact p.capacity.units) (h : b.tokens = p.capacity)
    (now : Instant) : (b.refill p now).tokens = p.capacity := by
  refine Binary64.ext (Nat.le_antisymm (tokens_refill_le (h ▸ Nat.le_refl _) now) ?_)
  rw [Bucket.refill]
  split
  · exact h ▸ Nat.le_refl _
  · split
    · rw [Binary64.units_min, h]
      exact Nat.le_min.2 ⟨Binary64.le_add_right hp, Nat.le_refl _⟩
    · exact h ▸ Nat.le_refl _

lemma Sound.refilledAt_refill (h : b.Sound p now) : (b.refill p now).refilledAt = some now := by
  rw [Bucket.refill]
  split
  · rfl
  · rename_i last hlast
    split
    · rfl
    · rename_i hafter
      -- not refilled later, and not earlier either
      have hle := h.refilled_le last hlast
      have heq : last.nanos = now.nanos := by
        simp only [Instant.isAfter, decide_eq_true_eq] at hafter
        omega
      rw [hlast]
      cases last
      cases now
      simpa using heq

/-- A bucket that is refilled is sound again. -/
lemma Sound.refill (h : b.Sound p now) : (b.refill p now).Sound p now := by
  refine ⟨tokens_refill_le h.tokens_le now, fun last hlast => ?_⟩
  rw [h.refilledAt_refill, Option.some.injEq] at hlast
  exact hlast ▸ Nat.le_refl _

/-- A bucket that is full once it is refilled holds exactly its capacity. -/
lemma Sound.refill_of_isFull (h : b.Sound p now) (hfull : (b.refill p now).isFull p = true) :
    b.refill p now = ⟨p.capacity, some now⟩ := by
  have hlevel : (b.refill p now).tokens = p.capacity :=
    Binary64.ext (Nat.le_antisymm (tokens_refill_le h.tokens_le now)
      (Binary64.le_iff.1 (of_decide_eq_true hfull)))
  have hinstant := h.refilledAt_refill
  cases hb : b.refill p now
  simp only [hb] at hlevel hinstant
  rw [hlevel, hinstant]

/-- Refilling a full bucket does to it what it does to a bucket that has not been used. -/
lemma refill_capacity (hp : Binary64.Exact p.capacity.units) (h : last.nanos ≤ now.nanos) :
    Bucket.refill ⟨p.capacity, some last⟩ p now = ⟨p.capacity, some now⟩ := by
  have hsound : Sound ⟨p.capacity, some last⟩ p now :=
    ⟨Nat.le_refl _, fun _ hlast => by cases hlast; exact h⟩
  refine hsound.refill_of_isFull (decide_eq_true ?_)
  rw [tokens_refill_of_full hp rfl]
  exact Nat.le_refl _

/-! ## Reserving -/

/-- A bucket with a whole token gives it. -/
lemma fst_reserve_of_token (h : Binary64.one ≤ (b.refill p now).tokens) :
    (b.reserve p now).1 =
      ⟨(b.refill p now).tokens - .one, (b.refill p now).refilledAt⟩ := by
  rw [reserve]
  exact congrArg Prod.fst (if_pos h)

lemma snd_reserve_of_token (h : Binary64.one ≤ (b.refill p now).tokens) :
    (b.reserve p now).2 =
      some (.grant (min ((b.refill p now).tokens - .one).floor maxReported)) := by
  rw [reserve]
  exact congrArg Prod.snd (if_pos h)

/-- A bucket without a whole token is only refilled. -/
lemma fst_reserve_of_missing (h : ¬ Binary64.one ≤ (b.refill p now).tokens) :
    (b.reserve p now).1 = b.refill p now := by
  rw [reserve]
  refine (congrArg Prod.fst (if_neg h)).trans ?_
  split <;> rfl

/-- It tells how long the next token takes. -/
lemma snd_reserve_of_missing (h : ¬ Binary64.one ≤ (b.refill p now).tokens)
    (hrate : Binary64.zero < p.rate) :
    (b.reserve p now).2 =
      (Duration.ofSeconds? ((.one - (b.refill p now).tokens) / p.rate)).map .reject := by
  have hpair : b.reserve p now = (b.refill p now,
      (Duration.ofSeconds? ((.one - (b.refill p now).tokens) / p.rate)).map .reject) := by
    rw [reserve]
    exact (if_neg h).trans (if_pos hrate)
  rw [hpair]

/-- If nothing comes in, it tells the interval. -/
lemma snd_reserve_of_dry (h : ¬ Binary64.one ≤ (b.refill p now).tokens)
    (hrate : ¬ Binary64.zero < p.rate) :
    (b.reserve p now).2 = some (.reject p.interval) := by
  rw [reserve]
  exact congrArg Prod.snd ((if_neg h).trans (if_neg hrate))

/-- Either way it does not admit. -/
lemma rejects_of_missing (h : ¬ Binary64.one ≤ (b.refill p now).tokens) {r : Reservation}
    (hanswer : (b.reserve p now).2 = some r) : r.isOk = false := by
  by_cases hrate : Binary64.zero < p.rate
  · rw [snd_reserve_of_missing h hrate] at hanswer
    obtain ⟨delay, -, rfl⟩ := Option.map_eq_some_iff.1 hanswer
    exact Reservation.isOk_reject delay
  · rw [snd_reserve_of_dry h hrate] at hanswer
    obtain rfl := Option.some.inj hanswer
    exact Reservation.isOk_reject p.interval

/-- What a reservation does depends on the bucket as it stands when it is refilled. -/
lemma reserve_congr {later : Instant} (h : b.refill p now = b'.refill p later) :
    b.reserve p now = b'.reserve p later := by
  simp only [reserve, h]

lemma refilledAt_reserve (b : Bucket) (p : Plan) (now : Instant) :
    (b.reserve p now).1.refilledAt = (b.refill p now).refilledAt := by
  simp only [reserve, apply_ite Prod.fst, apply_ite Bucket.refilledAt, ite_self]

/-- A bucket that a token is asked of holds at most its capacity, at whatever instant. -/
lemma tokens_reserve_le (hp : Binary64.Exact p.capacity.units) (h : b.tokens ≤ p.capacity)
    (now : Instant) : (b.reserve p now).1.tokens ≤ p.capacity := by
  have hlevel := tokens_refill_le h now
  by_cases htoken : Binary64.one ≤ (b.refill p now).tokens
  · rw [fst_reserve_of_token htoken]
    show (b.refill p now).tokens - .one ≤ p.capacity
    exact Binary64.sub_le hp hlevel
  · rwa [fst_reserve_of_missing htoken]

/-- A bucket that a token is asked of is sound again. -/
lemma Sound.reserve (hp : Binary64.Exact p.capacity.units) (h : b.Sound p now) :
    (b.reserve p now).1.Sound p now := by
  refine ⟨tokens_reserve_le hp h.tokens_le now, fun last hlast => ?_⟩
  rw [refilledAt_reserve, h.refilledAt_refill, Option.some.injEq] at hlast
  exact hlast ▸ Nat.le_refl _

end Admission.Bucket
