/-
# Buckets on numbers with a limit

A bucket holds a non-negative number, and nothing limits how large such a number can get.  Here a
bucket is kept in numbers with all their special values instead: sums can become infinite,
differences negative and quotients no number at all, and none of these has a duration (`Gauge`).
The two cannot be told apart (`foldl_gauge`, `reserve_gauge`): what is in a bucket stays between
none and its capacity, and what a rejection waits for is a finite number of seconds
(`finite_of_wait?`).  Only with an interval of 2⁶³ seconds or more can it be too long for a
duration (`of_reserve_eq_none`).
-/
import Admission.Proofs.Binary64.Arithmetic
import Admission.Proofs.Bucket.Plans
import Admission.Proofs.Bucket.Uses

namespace Admission

open Binary64 (Signed)

/-! ## Gauges -/

/-- A bucket that is kept in numbers with all their special values. -/
structure Gauge where
  /-- The tokens it holds. -/
  tokens : Signed
  /-- When it was last refilled; nothing for a gauge that has not been used. -/
  refilledAt : Option Instant
deriving DecidableEq

namespace Gauge

/-- What the gauges of one limiter have in common. -/
structure Plan where
  /-- The tokens a full gauge holds. -/
  capacity : Signed
  /-- The tokens added each second. -/
  rate : Signed
  /-- The time in which an empty gauge fills up. -/
  interval : Duration
deriving DecidableEq

/-- The seconds of a span. -/
def seconds (d : Duration) : Signed :=
  .ofNat d.seconds + .ofNat d.subsecondNanos / .ofNat 1000000000

/-- The span nearest to a number of seconds.  Negative numbers, infinities and what is no number
have none. -/
def duration? : Signed → Option Duration
  | .nan => none
  | .infinite _ => none
  | .finite false x => Duration.ofSeconds? x
  | .finite true x => if x = .zero then some ⟨0⟩ else none

/-- The plan of gauges that hold `quota` tokens and fill up in `interval`. -/
def Plan.make (quota : UInt64) (interval : Duration) : Plan :=
  let interval := interval.longer Bucket.minInterval
  let capacity := Signed.ofNat quota.toNat
  ⟨capacity, capacity / seconds interval, interval⟩

/-- A new gauge. -/
def new (p : Plan) (made : Option Instant) : Gauge := ⟨p.capacity, made⟩

/-- Adds the tokens that have come in since the last refill. -/
def refill (g : Gauge) (p : Plan) (now : Instant) : Gauge :=
  match g.refilledAt with
  | none => { g with refilledAt := some now }
  | some last =>
    if now.isAfter last then
      ⟨min (g.tokens + seconds (now.since last) * p.rate) p.capacity, some now⟩
    else g

/-- The seconds until the next token, as they are handed over to become a span; nothing if there
is a token, and if there will never be one. -/
def wait? (g : Gauge) (p : Plan) : Option Signed :=
  if Signed.one ≤ g.tokens then none
  else if Signed.zero < p.rate then some ((Signed.one - g.tokens) / p.rate)
  else none

/-- Asks for a token. -/
def reserve (g : Gauge) (p : Plan) (now : Instant) : Gauge × Option Reservation :=
  let g := g.refill p now
  if Signed.one ≤ g.tokens then
    let left := g.tokens - Signed.one
    ({ g with tokens := left }, some (.grant left.wholePart))
  else
    match g.wait? p with
    | some seconds => (g, (duration? seconds).map .reject)
    | none => (g, some (.reject p.interval))

section equations

variable {g : Gauge} {p : Plan} {now : Instant}

lemma reserve_of_token (h : Signed.one ≤ (g.refill p now).tokens) :
    g.reserve p now =
      (⟨(g.refill p now).tokens - .one, (g.refill p now).refilledAt⟩,
        some (.grant ((g.refill p now).tokens - .one).wholePart)) := by
  rw [reserve]
  exact if_pos h

lemma reserve_of_wait {x : Signed} (h : ¬ Signed.one ≤ (g.refill p now).tokens)
    (hwait : (g.refill p now).wait? p = some x) :
    g.reserve p now = (g.refill p now, (duration? x).map .reject) := by
  rw [reserve]
  dsimp only
  rw [if_neg h, hwait]

lemma reserve_of_dry (h : ¬ Signed.one ≤ (g.refill p now).tokens)
    (hwait : (g.refill p now).wait? p = none) :
    g.reserve p now = (g.refill p now, some (.reject p.interval)) := by
  rw [reserve]
  dsimp only
  rw [if_neg h, hwait]

end equations

/-- The gauge after a use. -/
def next (p : Plan) (g : Gauge) : Bucket.Use → Gauge
  | .reserve now => (g.reserve p now).1
  | .tokens now => g.refill p now
  | .isFull now => g.refill p now

end Gauge

/-- A moment that a duration leads to from the origin. -/
def Instant.Reached (t : Instant) : Prop :=
  (t.since ⟨0⟩).seconds < Duration.secondsLimit

instance (t : Instant) : Decidable t.Reached :=
  inferInstanceAs (Decidable (_ < _))

lemma Instant.Reached.seconds_since_lt {t last : Instant} (h : t.Reached) :
    (t.since last).seconds < Duration.secondsLimit :=
  lt_of_le_of_lt (Nat.div_le_div_right (Nat.sub_le_sub_left (Nat.zero_le _) _)) h

namespace Bucket

open Binary64 (kept grown one zero whole)

/-- A plan as one of gauges. -/
def Plan.gauge (p : Plan) : Gauge.Plan :=
  ⟨.finite false p.capacity, .finite false p.rate, p.interval⟩

@[simp] lemma Plan.capacity_gauge (p : Plan) : p.gauge.capacity = .finite false p.capacity := rfl

@[simp] lemma Plan.rate_gauge (p : Plan) : p.gauge.rate = .finite false p.rate := rfl

@[simp] lemma Plan.interval_gauge (p : Plan) : p.gauge.interval = p.interval := rfl

/-- A bucket as a gauge. -/
def gauge (b : Bucket) : Gauge := ⟨.finite false b.tokens, b.refilledAt⟩

lemma gauge_mk (tokens : Binary64) (refilledAt : Option Instant) :
    gauge ⟨tokens, refilledAt⟩ = ⟨.finite false tokens, refilledAt⟩ :=
  rfl

@[simp] lemma tokens_gauge (b : Bucket) : b.gauge.tokens = .finite false b.tokens := rfl

@[simp] lemma refilledAt_gauge (b : Bucket) : b.gauge.refilledAt = b.refilledAt := rfl

variable {quota : UInt64} {interval : Duration} {b : Bucket} {now : Instant} {uses : List Use}
  {made : Option Instant}

/-! ## Plans -/

lemma seconds_eq {d : Duration} (hd : d.seconds < Duration.secondsLimit) :
    Gauge.seconds d = .finite false d.asSeconds := by
  have hsubsecond : d.subsecondNanos ≤ 2 ^ 30 := by
    have : d.subsecondNanos < 10 ^ 9 := Nat.mod_lt _ (by decide)
    omega
  have hwhole := Signed.fits_of_le (by decide) (Binary64.ofNat_le_twoPow (j := 64) hd.le)
  have hnanos := Signed.fits_of_le (by decide) (Binary64.ofNat_le_twoPow hsubsecond)
  have hsecond := Signed.fits_of_le (by decide)
    (Binary64.ofNat_le_twoPow (n := 1000000000) (j := 30) (by decide))
  have hpos : 0 < (Binary64.ofNat 1000000000).toRat := by
    rw [Duration.toRat_nanosPerSecond]
    norm_num
  rw [Gauge.seconds, Signed.ofNat_of_fits hwhole, Signed.ofNat_of_fits hnanos,
    Signed.ofNat_of_fits hsecond,
    Signed.div_finite hpos (Signed.fits_of_le (by decide) d.fraction_le)]
  exact Signed.add_finite (Signed.fits_of_le (by decide) (Duration.asSeconds_le hd))

lemma make_gauge (hinterval : interval.seconds < Duration.secondsLimit) :
    Gauge.Plan.make quota interval = (Plan.make quota interval).gauge := by
  have hcapacity := Signed.fits_of_le (by decide) (capacity_le quota interval)
  have hrate := Signed.fits_of_le (by decide) (rate_le quota interval)
  have hlow := le_asSeconds_interval interval
  rw [Gauge.Plan.make, seconds_eq (seconds_longer_lt (by decide) hinterval)]
  rw [capacity_make] at hcapacity
  rw [Signed.ofNat_of_fits hcapacity, Signed.div_finite (by linarith) hrate]
  rfl

/-! ## Uses -/

/-- What comes in between two moments is far from the limit of the numbers. -/
lemma income_le (quota : UInt64) (interval : Duration) (last : Instant) (hnow : now.Reached) :
    ((now.since last).asSeconds * (Plan.make quota interval).rate).toRat ≤ 2 ^ 139 := by
  refine Binary64.mul_le_twoPow ?_
  calc (now.since last).asSeconds.toRat * (Plan.make quota interval).rate.toRat
      ≤ 2 ^ 65 * 2 ^ 74 :=
        mul_le_mul (Duration.asSeconds_le hnow.seconds_since_lt) (rate_le quota interval)
          (Binary64.toRat_nonneg _) (by positivity)
    _ = 2 ^ 139 := by norm_num

lemma refill_gauge (hlevel : b.tokens ≤ (Plan.make quota interval).capacity) (hnow : now.Reached) :
    b.gauge.refill (Plan.make quota interval).gauge now =
      (b.refill (Plan.make quota interval) now).gauge := by
  have hcapacity := (Binary64.toRat_le_toRat.2 hlevel).trans (capacity_le quota interval)
  rw [Gauge.refill, refill, refilledAt_gauge]
  cases hrefilled : b.refilledAt with
  | none =>
    simp only [gauge]
  | some last =>
    have hincome := income_le quota interval last hnow
    have hsum : (b.tokens + (now.since last).asSeconds * (Plan.make quota interval).rate).toRat ≤
        2 ^ 140 :=
      Binary64.add_le_twoPow (by linarith)
    dsimp only
    by_cases hafter : now.isAfter last = true
    · rw [if_pos hafter, if_pos hafter, tokens_gauge, Plan.rate_gauge, Plan.capacity_gauge,
        seconds_eq hnow.seconds_since_lt,
        Signed.mul_finite (Signed.fits_of_le (by decide) hincome),
        Signed.add_finite (Signed.fits_of_le (by decide) hsum), Signed.min_finite, gauge]
    · rw [if_neg hafter, if_neg hafter]

/-- The seconds that a rejection waits for are a difference and a quotient in the range. -/
lemma missing_gauge (hinterval : interval.seconds < Duration.secondsLimit)
    (hmissing : ¬ one ≤ b.tokens) (hrate : zero < (Plan.make quota interval).rate) :
    (Signed.one - b.gauge.tokens) / (Plan.make quota interval).gauge.rate =
      .finite false ((one - b.tokens) / (Plan.make quota interval).rate) := by
  have hbelow : b.tokens ≤ one := Nat.le_of_not_le hmissing
  have hdifference := Binary64.one_sub_le b.tokens
  rw [← pow_zero 2] at hdifference
  have hlow := le_rate (quota_pos hrate) hinterval
  have hquotient : ((one - b.tokens) / (Plan.make quota interval).rate).toRat ≤ 2 ^ 66 :=
    Binary64.div_le_twoPow (by linarith) (by linarith)
  rw [tokens_gauge, Plan.rate_gauge, Signed.one,
    Signed.sub_finite hbelow (Signed.fits_of_le (by decide) hdifference),
    Signed.div_finite (by linarith) (Signed.fits_of_le (by decide) hquotient)]

/-- What a rejection waits for, if it waits for anything, is a finite number of seconds. -/
lemma wait?_gauge (quota : UInt64) (hinterval : interval.seconds < Duration.secondsLimit)
    (hmissing : ¬ one ≤ b.tokens) :
    b.gauge.wait? (Plan.make quota interval).gauge =
      if zero < (Plan.make quota interval).rate then
        some (.finite false ((one - b.tokens) / (Plan.make quota interval).rate))
      else none := by
  have hmissing' : ¬ Signed.one ≤ b.gauge.tokens := mt Signed.le_finite.1 hmissing
  rw [Gauge.wait?, if_neg hmissing']
  by_cases hrate : zero < (Plan.make quota interval).rate
  · have hrate' : Signed.zero < (Plan.make quota interval).gauge.rate := Signed.lt_finite.2 hrate
    rw [if_pos hrate, if_pos hrate', missing_gauge hinterval hmissing hrate]
  · have hrate' : ¬ Signed.zero < (Plan.make quota interval).gauge.rate :=
      mt Signed.lt_finite.1 hrate
    rw [if_neg hrate, if_neg hrate']

lemma wholePart_finite (x : Binary64) :
    (Signed.finite false x).wholePart = min (x.floor : Int) maxReported := by
  rw [Signed.wholePart, maxReported]
  norm_num

lemma reserve_gauge (hinterval : interval.seconds < Duration.secondsLimit)
    (hlevel : b.tokens ≤ (Plan.make quota interval).capacity) (hnow : now.Reached) :
    b.gauge.reserve (Plan.make quota interval).gauge now =
      ((b.reserve (Plan.make quota interval) now).1.gauge,
        (b.reserve (Plan.make quota interval) now).2) := by
  have hfilled := tokens_refill_le hlevel now
  have hrefill := refill_gauge hlevel hnow
  by_cases htoken : one ≤ (b.refill (Plan.make quota interval) now).tokens
  · have hleft : ((b.refill (Plan.make quota interval) now).tokens - one).toRat ≤ 2 ^ 64 :=
      (Binary64.toRat_le_toRat.2 (Binary64.sub_le (exact_capacity _ _) hfilled)).trans
        (capacity_le quota interval)
    have htaken := Signed.sub_finite htoken (Signed.fits_of_le (by decide) hleft)
    have htoken' : Signed.one ≤ (b.gauge.refill (Plan.make quota interval).gauge now).tokens := by
      rw [hrefill, tokens_gauge]
      exact Signed.le_finite.2 htoken
    rw [Gauge.reserve_of_token htoken', hrefill, tokens_gauge, refilledAt_gauge, Signed.one, htaken,
      wholePart_finite, fst_reserve_of_token htoken, snd_reserve_of_token htoken, gauge_mk]
  have htoken' : ¬ Signed.one ≤ (b.gauge.refill (Plan.make quota interval).gauge now).tokens := by
    rw [hrefill, tokens_gauge]
    exact mt Signed.le_finite.1 htoken
  have hwait := wait?_gauge quota hinterval htoken
  rw [← hrefill] at hwait
  by_cases hrate : zero < (Plan.make quota interval).rate
  · rw [if_pos hrate] at hwait
    rw [Gauge.reserve_of_wait htoken' hwait, hrefill, fst_reserve_of_missing htoken,
      snd_reserve_of_missing htoken hrate, Gauge.duration?]
  · rw [if_neg hrate] at hwait
    rw [Gauge.reserve_of_dry htoken' hwait, hrefill, fst_reserve_of_missing htoken,
      snd_reserve_of_dry htoken hrate, Plan.interval_gauge]

lemma next_gauge (hinterval : interval.seconds < Duration.secondsLimit)
    (hlevel : b.tokens ≤ (Plan.make quota interval).capacity) {use : Use} (hnow : use.now.Reached) :
    Gauge.next (Plan.make quota interval).gauge b.gauge use =
      (next (Plan.make quota interval) b use).gauge := by
  cases use with
  | reserve now =>
    have hreserve := reserve_gauge hinterval hlevel hnow
    rw [Use.now] at hreserve
    rw [Gauge.next, hreserve, next]
  | tokens now => exact refill_gauge hlevel hnow
  | isFull now => exact refill_gauge hlevel hnow

/-- However it is used, a bucket that starts with no more than its capacity cannot be told from its
gauge. -/
lemma foldl_gauge (hlevel : b.tokens ≤ (Plan.make quota interval).capacity)
    (hinterval : interval.seconds < Duration.secondsLimit)
    (huses : ∀ use ∈ uses, use.now.Reached) :
    uses.foldl (Gauge.next (Plan.make quota interval).gauge) b.gauge =
      (uses.foldl (next (Plan.make quota interval)) b).gauge ∧
    (uses.foldl (next (Plan.make quota interval)) b).tokens ≤
      (Plan.make quota interval).capacity := by
  induction uses generalizing b with
  | nil => exact ⟨rfl, hlevel⟩
  | cons use uses ih =>
    obtain ⟨hnow, hrest⟩ := List.forall_mem_cons.1 huses
    rw [List.foldl_cons, List.foldl_cons, next_gauge hinterval hlevel hnow]
    exact ih (tokens_next_le (exact_capacity quota interval) hlevel use) hrest

/-! ## Delays that are too long -/

/-- An interval below 2⁶³ seconds is not rounded far above. -/
lemma asSeconds_interval_le_of_lt (hinterval : interval.seconds < 2 ^ 63) :
    (interval.longer minInterval).asSeconds.toRat ≤ grown ^ 2 * 2 ^ 63 := by
  have hseconds := seconds_longer_lt (by decide) hinterval
  have hnanos : (interval.longer minInterval).nanos ≤ 2 ^ 63 * 10 ^ 9 := by
    simp only [Duration.seconds] at hseconds
    omega
  have hcast : ((interval.longer minInterval).nanos : ℚ) / 10 ^ 9 ≤ 2 ^ 63 := by
    rw [div_le_iff₀ (by norm_num)]
    exact_mod_cast hnanos
  calc (interval.longer minInterval).asSeconds.toRat
      ≤ grown ^ 2 * ((interval.longer minInterval).nanos / 10 ^ 9) :=
        (interval.longer minInterval).rounded_asSeconds.le_grown
    _ ≤ grown ^ 2 * 2 ^ 63 := mul_le_mul_of_nonneg_left hcast (by norm_num [grown])

/-- With an interval below 2⁶³ seconds a token comes in before the longest duration is over. -/
lemma ofSeconds?_missing_ne_none (hinterval : interval.seconds < 2 ^ 63) {tokens : Binary64}
    (hrate : zero < (Plan.make quota interval).rate) :
    Duration.ofSeconds? ((one - tokens) / (Plan.make quota interval).rate) ≠ none := by
  have hlow := kept_div_le_rate (quota_pos hrate) (asSeconds_interval_le_of_lt hinterval)
    (by norm_num [grown])
  have hmissing := Binary64.one_sub_le tokens
  -- three quarters of the limit are a number of the format, and more than the delay
  have hexact : Binary64.Exact (3 * 2 ^ 62) := ⟨3, 62, by decide, rfl⟩
  have hneeded : 1 ≤ 3 * 2 ^ 62 * (kept / (grown ^ 2 * 2 ^ 63)) := by norm_num [kept, grown]
  have hdelay : (one - tokens) / (Plan.make quota interval).rate ≤ whole (3 * 2 ^ 62) := by
    refine Binary64.div_le (Binary64.exact_whole hexact) (Binary64.zero_lt_iff.1 hrate) ?_
    rw [Binary64.toRat_whole]
    push_cast
    linarith
  have hfits : ((one - tokens) / (Plan.make quota interval).rate).units <
      Duration.secondsLimit * Binary64.scale :=
    lt_of_le_of_lt hdelay (Nat.mul_lt_mul_of_pos_right (by decide) Binary64.zero_lt_scale)
  rw [Duration.ofSeconds?, if_pos hfits]
  exact Option.some_ne_none _

/-- A reservation without an answer takes nothing, and it needs a very long interval. -/
lemma of_reserve_eq_none (hanswer : (b.reserve (Plan.make quota interval) now).2 = none) :
    2 ^ 63 ≤ interval.seconds ∧
      (b.reserve (Plan.make quota interval) now).1 = b.refill (Plan.make quota interval) now := by
  have hmissing : ¬ one ≤ (b.refill (Plan.make quota interval) now).tokens := by
    intro htoken
    rw [snd_reserve_of_token htoken] at hanswer
    exact absurd hanswer (Option.some_ne_none _)
  refine ⟨Nat.le_of_not_lt fun hinterval => ?_, fst_reserve_of_missing hmissing⟩
  by_cases hrate : zero < (Plan.make quota interval).rate
  · rw [snd_reserve_of_missing hmissing hrate, Option.map_eq_none_iff] at hanswer
    exact ofSeconds?_missing_ne_none hinterval hrate hanswer
  · rw [snd_reserve_of_dry hmissing hrate] at hanswer
    exact absurd hanswer (Option.some_ne_none _)

/-- What a gauge waits for is a finite number of seconds. -/
lemma finite_of_wait? (hinterval : interval.seconds < Duration.secondsLimit) {x : Signed}
    (hwait : b.gauge.wait? (Plan.make quota interval).gauge = some x) :
    ∃ y, x = .finite false y := by
  by_cases htoken : one ≤ b.tokens
  · have htoken' : Signed.one ≤ b.gauge.tokens := Signed.le_finite.2 htoken
    rw [Gauge.wait?, if_pos htoken'] at hwait
    exact absurd hwait (Option.some_ne_none x).symm
  · rw [wait?_gauge quota hinterval htoken, Option.ite_none_right_eq_some] at hwait
    exact ⟨_, (Option.some.inj hwait.2).symm⟩

end Bucket

end Admission
