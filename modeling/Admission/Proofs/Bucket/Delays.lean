/-
# Delays of buckets

A rejection tells when there will be a token, in whole nanoseconds and after a few roundings, so
that at the very instant it tells the token may still be missing (`rejected_after_delay`).  What
is missing is known: every operation on the way keeps all but one part in 2⁵³ of its result, and
five of them lose less than half a nanosecond in 2⁴⁹.  So one nanosecond more is enough for delays
below 2⁴⁹ ns, which is six days, and one for every further 2⁴⁹ ns (`admitted_after_delay`).
-/
import Admission.Proofs.Bucket.Plans
import Admission.Proofs.Bucket.Uses

namespace Admission.Bucket

open Binary64 (kept leastNormal one)

/-! ## Waiting for a token -/

variable {tokens rate : Binary64} {delay waited : Duration}

/-- A nanosecond in 2⁴⁹ makes up for five roundings and the last half nanosecond. -/
lemma le_kept_mul_waited (hwait : delay.nanos + 1 + delay.nanos / 2 ^ 49 ≤ waited.nanos) :
    (delay.nanos : ℚ) + 1 / 2 ≤ kept ^ 5 * waited.nanos := by
  have hsplit : delay.nanos < (delay.nanos / 2 ^ 49 + 1) * 2 ^ 49 :=
    Nat.lt_mul_of_div_lt (Nat.lt_succ_self _) (by decide)
  generalize delay.nanos / 2 ^ 49 = extra at hwait hsplit
  have hdelay : (delay.nanos : ℚ) ≤ (extra + 1) * 2 ^ 49 := by exact_mod_cast hsplit.le
  have hwaited : (delay.nanos : ℚ) + 1 + extra ≤ waited.nanos := by exact_mod_cast hwait
  have hextra : (0 : ℚ) ≤ extra := extra.cast_nonneg
  have hkept : 1 - 5 / 2 ^ 53 ≤ kept ^ 5 := by norm_num [kept]
  calc (delay.nanos : ℚ) + 1 / 2 ≤ (1 - 5 / 2 ^ 53) * (delay.nanos + 1 + extra) := by linarith
    _ ≤ kept ^ 5 * waited.nanos := by gcongr

/-- What comes in at a rate in the time that was told, when all that is lost on the way is made up
for, is what was missing. -/
lemma missing_le_income {missing rounded time rate told waited seconds : ℚ} (hrate : 0 < rate)
    (hrounded : kept * missing ≤ rounded) (htime : kept * (rounded / rate) ≤ time)
    (htold : time * 10 ^ 9 ≤ told + 1 / 2) (hwaited : told + 1 / 2 ≤ kept ^ 5 * waited)
    (hseconds : kept ^ 2 * (waited / 10 ^ 9) ≤ seconds) :
    missing ≤ kept * (seconds * rate) := by
  have hkept := Binary64.kept_pos
  have hneeded : kept ^ 2 * missing ≤ time * rate := by
    rw [← mul_div_assoc, div_le_iff₀ hrate] at htime
    calc kept ^ 2 * missing = kept * (kept * missing) := by ring
      _ ≤ kept * rounded := by gcongr
      _ ≤ time * rate := htime
  have hlong : time ≤ kept ^ 5 * waited / 10 ^ 9 := by
    rw [le_div_iff₀ (by norm_num)]
    exact htold.trans hwaited
  have hall : kept ^ 2 * missing ≤ kept ^ 2 * (kept * (seconds * rate)) := by
    calc kept ^ 2 * missing ≤ time * rate := hneeded
      _ ≤ kept ^ 5 * waited / 10 ^ 9 * rate := by gcongr
      _ = kept ^ 3 * (kept ^ 2 * (waited / 10 ^ 9)) * rate := by ring
      _ ≤ kept ^ 3 * seconds * rate := by gcongr
      _ = kept ^ 2 * (kept * (seconds * rate)) := by ring
  exact le_of_mul_le_mul_left hall (by positivity)

/-- Who waits for the time that the missing part of a token takes, and a little longer, gets the
token. -/
lemma one_le_refilled (hexact : Binary64.Exact tokens.units) (hmissing : tokens < one)
    (hrate : 0 < rate.toRat) (hlimit : rate.toRat ≤ 2 ^ 74)
    (hdelay : Duration.ofSeconds? ((one - tokens) / rate) = some delay)
    (hwait : delay.nanos + 1 + delay.nanos / 2 ^ 49 ≤ waited.nanos) :
    one ≤ tokens + waited.asSeconds * rate := by
  -- the part of a token that is missing is not tiny
  have hgap : tokens.toRat ≤ kept := Binary64.toRat_le_kept hexact hmissing
  have hbelow : tokens.toRat ≤ one.toRat := (Binary64.toRat_lt_toRat.2 hmissing).le
  have hrounded := (Binary64.rounded_sub hbelow).kept_mul_le
  rw [Binary64.toRat_one] at hrounded
  have hnormal : leastNormal ≤ (one - tokens).toRat / rate.toRat := by
    refine Binary64.leastNormal_le.trans ?_
    rw [le_div_iff₀ hrate]
    have hkept : 1 / 2 ^ 54 ≤ kept * (1 - tokens.toRat) := by
      calc 1 / 2 ^ 54 ≤ kept * (1 - kept) := by norm_num [kept]
        _ ≤ kept * (1 - tokens.toRat) :=
          mul_le_mul_of_nonneg_left (by linarith) Binary64.kept_pos.le
    linarith
  have hincome := missing_le_income hrate hrounded (Binary64.rounded_div hrate hnormal).kept_mul_le
    (Duration.le_of_ofSeconds? hdelay) (le_kept_mul_waited hwait) waited.rounded_asSeconds.kept_le
  have hnormal' : leastNormal ≤ waited.asSeconds.toRat * rate.toRat := by
    refine Binary64.leastNormal_le.trans ?_
    have hnonneg := mul_nonneg waited.asSeconds.toRat_nonneg rate.toRat_nonneg
    rw [kept] at hincome hgap
    linarith
  have hround := (Binary64.rounded_mul hnormal').kept_mul_le
  exact Binary64.one_le_add (by linarith)

/-! ## Rejections -/

variable {b : Bucket} {p : Plan} {now later : Instant} {r : Reservation}

/-- A rejection leaves the bucket as it was refilled, with less than a token, and tells at least
the time that the missing part takes. -/
lemma of_rejected (hrate : 0 < p.rate.toRat) (hanswer : (b.reserve p now).2 = some r)
    (hrejected : r.isOk = false) :
    (b.reserve p now).1 = b.refill p now ∧ (b.refill p now).tokens < one ∧
      ∃ delay, Duration.ofSeconds? ((one - (b.refill p now).tokens) / p.rate) = some delay ∧
        delay.nanos ≤ r.delay.nanos := by
  have hmissing : ¬ one ≤ (b.refill p now).tokens := by
    intro htoken
    rw [snd_reserve_of_token htoken] at hanswer
    obtain rfl := Option.some.inj hanswer
    exact absurd hrejected (by simp)
  rw [snd_reserve_of_missing hmissing (Binary64.zero_lt_iff.2 hrate)] at hanswer
  obtain ⟨delay, hdelay, rfl⟩ := Option.map_eq_some_iff.1 hanswer
  exact ⟨fst_reserve_of_missing hmissing, Binary64.not_le.1 hmissing, delay, hdelay,
    Nat.le_max_left _ _⟩

/-- A bucket that holds a token when it is refilled admits. -/
lemma admits_of_one_le (h : one ≤ (b.refill p now).tokens) :
    ∃ r, (b.reserve p now).2 = some r ∧ r.isOk = true :=
  ⟨_, snd_reserve_of_token h, Reservation.isOk_grant _⟩

/-- **A rejection is right about its delay, but for a nanosecond in 2⁴⁹.**  A new bucket is used in
order, and not before it was made.  If a reservation is then rejected with a delay, the bucket
admits again one nanosecond after the delay, and one more for every 2⁴⁹ ns of it, and at all later
instants. -/
theorem admitted_after_delay {quota : UInt64} {interval : Duration} {made : Option Instant}
    {uses : List Use} (hquota : 0 < quota.toNat)
    (hinterval : interval.seconds < Duration.secondsLimit)
    (hmade : ∀ m, made = some m → ∀ use ∈ uses ++ [.reserve now], m.nanos ≤ use.now.nanos)
    (htime : InOrder (uses ++ [.reserve now]))
    (hanswer : ((uses.foldl (next (Plan.make quota interval))
      (new (Plan.make quota interval) made)).reserve (Plan.make quota interval) now).2 = some r)
    (hrejected : r.isOk = false)
    (hlater : now.nanos + r.delay.nanos + 1 + r.delay.nanos / 2 ^ 49 ≤ later.nanos) :
    ∃ r', (((uses ++ [Use.reserve now]).foldl (next (Plan.make quota interval))
        (new (Plan.make quota interval) made)).reserve (Plan.make quota interval) later).2 =
      some r' ∧ r'.isOk = true := by
  set p := Plan.make quota interval with hp
  set b := uses.foldl (next p) (new p made) with hb
  have hcapacity : Binary64.Exact p.capacity.units := exact_capacity quota interval
  have hrate : 0 < p.rate.toRat := rate_pos hquota hinterval
  obtain ⟨hleft, hmissing, delay, hdelay, hle⟩ := of_rejected hrate hanswer hrejected
  have hsound : b.Sound p now := sound_foldl_next hcapacity htime hmade
  have hexact : Binary64.Exact (b.refill p now).tokens.units :=
    exact_refill hcapacity (exact_foldl_next hcapacity hcapacity uses) now
  have hwait : delay.nanos + 1 + delay.nanos / 2 ^ 49 ≤ (later.since now).nanos := by
    have := Nat.div_le_div_right hle (c := 2 ^ 49)
    simp only [Instant.since]
    omega
  have htoken := one_le_refilled hexact hmissing hrate (rate_le quota interval) hdelay hwait
  have hnext : (uses ++ [Use.reserve now]).foldl (next p) (new p made) = b.refill p now := by
    rw [List.foldl_append, ← hb, List.foldl_cons, List.foldl_nil, next, hleft]
  rw [hnext]
  refine admits_of_one_le ?_
  have hafter : later.isAfter now = true := decide_eq_true (by omega)
  rw [refill, hsound.refilledAt_refill]
  dsimp only
  rw [if_pos hafter]
  refine Binary64.le_min htoken ?_
  rw [hp, capacity_make]
  exact Binary64.one_le_ofNat hquota

/-- Three tokens a second: at the end of the delay of a third of a second, which is rounded down,
the next token is still missing. -/
theorem rejected_after_delay :
    let p := Plan.make 3 (.ofSeconds 1)
    let uses : List Use := [.reserve ⟨0⟩, .reserve ⟨0⟩, .reserve ⟨0⟩]
    ((uses.foldl (next p) (new p (some ⟨0⟩))).reserve p ⟨0⟩).2 =
        some (.reject ⟨333333333⟩) ∧
      (((uses ++ [Use.reserve ⟨0⟩]).foldl (next p) (new p (some ⟨0⟩))).reserve p ⟨333333333⟩).2 =
        some (.reject (.ofMillis 1)) := by
  decide +kernel

/-- A nanosecond after the delay it is there. -/
theorem admitted_a_nanosecond_later :
    let p := Plan.make 3 (.ofSeconds 1)
    let uses : List Use := [.reserve ⟨0⟩, .isFull ⟨0⟩, .reserve ⟨0⟩, .reserve ⟨0⟩]
    ((uses.foldl (next p) (new p (some ⟨0⟩))).reserve p ⟨0⟩).2 =
        some (.reject ⟨333333333⟩) ∧
      ∃ r, (((uses ++ [Use.reserve ⟨0⟩]).foldl (next p) (new p (some ⟨0⟩))).reserve p
        ⟨333333334⟩).2 = some r ∧ r.isOk = true := by
  intro p uses
  have hanswer : ((uses.foldl (next p) (new p (some ⟨0⟩))).reserve p ⟨0⟩).2 =
      some (.reject ⟨333333333⟩) := by
    decide +kernel
  have htime : InOrder (uses ++ [.reserve ⟨0⟩]) := by decide
  have hmade : ∀ m, some (⟨0⟩ : Instant) = some m →
      ∀ use ∈ uses ++ [.reserve ⟨0⟩], m.nanos ≤ use.now.nanos :=
    fun m hm use _ => Option.some.inj hm ▸ Nat.zero_le _
  refine ⟨hanswer, ?_⟩
  exact admitted_after_delay (by decide) (by decide) hmade htime hanswer (by decide) (by decide)

end Admission.Bucket
