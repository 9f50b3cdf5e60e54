/-
# Readings

Reading a bucket refills it, so a run with more readings adds up the same time in more and smaller
parts, each of them rounded.  Were nothing rounded, the parts would add up to the whole.  What
rounding makes of a level is a small part of the capacity at each use, so two runs that differ in
readings stay near to each other (`Near`), and only where a level is next to a whole token can one
of them admit what the other one rejects (`readings_shift_levels_by_rounding`).  This can happen
(`reading_costs_a_token`).
-/
import Admission.Proofs.Bucket.Rounding
import Mathlib.Algebra.Order.Group.MinMax

namespace Admission.Bucket

open Binary64 (one)

/-! ## Runs with fewer readings -/

/-- Whether a use only reads the bucket. -/
def Use.isReading : Use → Bool
  | .reserve _ => false
  | .tokens _ => true
  | .isFull _ => true

/-- The second run is the first one without some of the readings. -/
inductive LeavesOut : List Use → List Use → Prop
  | nil : LeavesOut [] []
  | keep (use : Use) {uses fewer : List Use} (h : LeavesOut uses fewer) :
    LeavesOut (use :: uses) (use :: fewer)
  | skip {use : Use} {uses fewer : List Use} (hreading : use.isReading = true)
    (h : LeavesOut uses fewer) : LeavesOut (use :: uses) fewer

/-- Whether an answer admits. -/
def admits (answer : Option Reservation) : Bool := answer.any Reservation.isOk

/-- Which of the reservations among some uses of a bucket are admitted. -/
def admissions (p : Plan) (b : Bucket) (uses : List Use) : List Bool :=
  (reservations p b uses).map admits

/-- What rounding makes of a level in some uses. -/
def slack (p : Plan) (uses : Nat) : ℚ := uses * p.capacity.toRat / 2 ^ 49

variable {quota : UInt64} {interval : Duration} {a b : Bucket} {p : Plan} {now t : Instant}
  {uses fewer : List Use} {d e : ℚ}

/-! ## Admissions -/

lemma admissions_cons (p : Plan) (b : Bucket) (use : Use) (uses : List Use) :
    admissions p b (use :: uses) = admissions p b [use] ++ admissions p (next p b use) uses := by
  cases use <;> simp only [admissions, reservations, next, List.map_cons, List.map_nil,
    List.cons_append, List.nil_append]

lemma length_admissions (p : Plan) (a b : Bucket) (use : Use) :
    (admissions p a [use]).length = (admissions p b [use]).length := by
  cases use <;> simp only [admissions, reservations, List.map_cons, List.map_nil,
    List.length_cons, List.length_nil]

lemma admissions_of_reading {use : Use} (h : use.isReading = true) :
    admissions p b [use] = [] := by
  cases use with
  | reserve now => exact absurd h Bool.false_ne_true
  | tokens now => rfl
  | isFull now => rfl

lemma admits_reserve_iff :
    admits (b.reserve p now).2 = true ↔ one ≤ (b.refill p now).tokens := by
  by_cases htoken : one ≤ (b.refill p now).tokens
  · rw [snd_reserve_of_token htoken]
    exact iff_of_true (Reservation.isOk_grant _) htoken
  · refine iff_of_false (fun hadmits => ?_) htoken
    obtain ⟨r, hr, hok⟩ := (Option.any_eq_true _ _).1 hadmits
    exact Bool.false_ne_true ((rejects_of_missing htoken hr).symm.trans hok)

lemma slack_succ_le (p : Plan) (uses : Nat) :
    d + slack p 1 + slack p uses ≤ d + slack p (uses + 1) := by
  rw [slack, slack, slack]
  push_cast
  linarith

/-! ## Two runs -/

/-- Two buckets hold nearly the same at an instant. -/
structure Near (p : Plan) (now : Instant) (d : ℚ) (a b : Bucket) : Prop where
  left : a.Started p now
  right : b.Started p now
  close : |a.exactLevel p now - b.exactLevel p now| ≤ d

namespace Near

lemma symm (h : Near p now d a b) : Near p now d b a :=
  ⟨h.right, h.left, abs_sub_comm (a.exactLevel p now) _ ▸ h.close⟩

lemma mono (h : Near p now d a b) (hle : d ≤ e) : Near p now e a b :=
  ⟨h.left, h.right, h.close.trans hle⟩

/-- Time that passes does not bring two buckets apart. -/
lemma later (h : Near p now d a b) (hle : now.nanos ≤ t.nanos) : Near p t d a b := by
  refine ⟨h.left.later hle, h.right.later hle, ?_⟩
  rw [exactLevel_later h.left hle, exactLevel_later h.right hle]
  refine (abs_min_sub_min_le_max _ _ _ _).trans ?_
  rw [add_sub_add_right_eq_sub, sub_self, abs_zero, max_eq_left (abs_nonneg _)]
  exact h.close

/-- A reading brings two buckets apart by what it is rounded. -/
lemma refill (hinterval : interval.seconds < Duration.secondsLimit)
    (h : Near (Plan.make quota interval) now d a b) :
    Near (Plan.make quota interval) now
      (d + 5 / 2 ^ 53 * (Plan.make quota interval).capacity.toRat)
      (a.refill (Plan.make quota interval) now) b := by
  refine ⟨h.left.refill, h.right, ?_⟩
  rw [exactLevel_of_refilledAt h.left.refilledAt_refill (tokens_refill_le h.left.tokens_le now)]
  have hrounded := abs_refill_sub_le quota hinterval h.left.tokens_le now
  exact (abs_sub_le _ (a.exactLevel (Plan.make quota interval) now) _).trans
    (by linarith [h.close])

/-- Buckets that are asked for a token look at levels that are near to each other. -/
lemma abs_refilled_sub_le (hinterval : interval.seconds < Duration.secondsLimit)
    (h : Near (Plan.make quota interval) now d a b) :
    |(a.refill (Plan.make quota interval) now).tokens.toRat -
        (b.refill (Plan.make quota interval) now).tokens.toRat| ≤
      d + 10 / 2 ^ 53 * (Plan.make quota interval).capacity.toRat := by
  have hboth := ((h.refill hinterval).symm.refill hinterval).symm.close
  rw [exactLevel_of_refilledAt h.left.refilledAt_refill (tokens_refill_le h.left.tokens_le now),
    exactLevel_of_refilledAt h.right.refilledAt_refill (tokens_refill_le h.right.tokens_le now)]
    at hboth
  linarith

/-- Levels that are charged alike stay as near as they are, and levels that are not come no further
apart than a token. -/
lemma abs_spent_sub_le {x y : ℚ} (h : |x - y| ≤ d) (halike : (1 ≤ x ↔ 1 ≤ y) ∨ 1 ≤ d) :
    |spent x - spent y| ≤ d := by
  rw [abs_sub_le_iff] at h ⊢
  rw [spent, spent]
  split <;> split <;> rename_i hx hy
  · constructor <;> linarith
  · have hd : 1 ≤ d := halike.resolve_left fun hiff => hy (hiff.1 hx)
    constructor <;> linarith
  · have hd : 1 ≤ d := halike.resolve_left fun hiff => hx (hiff.2 hy)
    constructor <;> linarith
  · exact h

lemma reserve (hinterval : interval.seconds < Duration.secondsLimit)
    (h : Near (Plan.make quota interval) now d a b)
    (halike : (one ≤ (a.refill (Plan.make quota interval) now).tokens ↔
      one ≤ (b.refill (Plan.make quota interval) now).tokens) ∨ 1 ≤ d) :
    Near (Plan.make quota interval) now
      (d + 12 / 2 ^ 53 * (Plan.make quota interval).capacity.toRat)
      (a.reserve (Plan.make quota interval) now).1
      (b.reserve (Plan.make quota interval) now).1 := by
  have hexact := exact_capacity quota interval
  have hcapacity := (Plan.make quota interval).capacity.toRat_nonneg
  refine ⟨h.left.reserve hexact, h.right.reserve hexact, ?_⟩
  rw [exactLevel_of_refilledAt ((refilledAt_reserve _ _ _).trans h.left.refilledAt_refill)
      (tokens_reserve_le hexact h.left.tokens_le now),
    exactLevel_of_refilledAt ((refilledAt_reserve _ _ _).trans h.right.refilledAt_refill)
      (tokens_reserve_le hexact h.right.tokens_le now)]
  have hcharge := abs_reserve_sub_le h.left.tokens_le now
  have hcharge' := abs_reserve_sub_le h.right.tokens_le now
  have hspent := abs_spent_sub_le (h.abs_refilled_sub_le hinterval) (by
    rw [← Binary64.toRat_one, Binary64.toRat_le_toRat, Binary64.toRat_le_toRat,
      Binary64.toRat_one]
    exact halike.imp_right fun hd => by linarith)
  rw [abs_sub_le_iff] at hcharge hcharge' hspent ⊢
  constructor <;> linarith

/-- A use of both buckets. -/
lemma next (hinterval : interval.seconds < Duration.secondsLimit) {use : Use}
    (h : Near (Plan.make quota interval) use.now d a b)
    (halike : admissions (Plan.make quota interval) a [use] =
      admissions (Plan.make quota interval) b [use] ∨ 1 ≤ d) :
    Near (Plan.make quota interval) use.now (d + slack (Plan.make quota interval) 1)
      (Bucket.next (Plan.make quota interval) a use)
      (Bucket.next (Plan.make quota interval) b use) := by
  have hcapacity := (Plan.make quota interval).capacity.toRat_nonneg
  have hreading : d + 5 / 2 ^ 53 * (Plan.make quota interval).capacity.toRat +
      5 / 2 ^ 53 * (Plan.make quota interval).capacity.toRat ≤
      d + slack (Plan.make quota interval) 1 := by
    rw [slack]
    linarith
  cases use with
  | reserve now =>
    rw [Use.now] at h
    refine (h.reserve hinterval (halike.imp_left fun hsame => ?_)).mono ?_
    · rw [← admits_reserve_iff, ← admits_reserve_iff]
      exact Bool.eq_iff_iff.1 (List.singleton_inj.1 hsame)
    · rw [slack]
      linarith
  | tokens now => exact ((h.refill hinterval).symm.refill hinterval).symm.mono hreading
  | isFull now => exact ((h.refill hinterval).symm.refill hinterval).symm.mono hreading

/-- A reading of one of the buckets. -/
lemma next_left (hinterval : interval.seconds < Duration.secondsLimit) {use : Use}
    (h : Near (Plan.make quota interval) use.now d a b) (hreading : use.isReading = true) :
    Near (Plan.make quota interval) use.now (d + slack (Plan.make quota interval) 1)
      (Bucket.next (Plan.make quota interval) a use) b := by
  have hcapacity := (Plan.make quota interval).capacity.toRat_nonneg
  have hnext : Bucket.next (Plan.make quota interval) a use =
      a.refill (Plan.make quota interval) use.now := by
    cases use with
    | reserve now => exact absurd hreading Bool.false_ne_true
    | tokens now => rfl
    | isFull now => rfl
  rw [hnext]
  refine (h.refill hinterval).mono ?_
  rw [slack]
  linarith

/-- Runs that differ in readings stay near to each other, as long as they admit the same or a token
does not matter. -/
lemma foldl (hinterval : interval.seconds < Duration.secondsLimit) (hfewer : LeavesOut uses fewer)
    (h : Near (Plan.make quota interval) now d a b) (htime : InOrder (uses ++ [.reserve t]))
    (hnow : ∀ use ∈ uses ++ [.reserve t], now.nanos ≤ use.now.nanos)
    (halike : admissions (Plan.make quota interval) a uses =
      admissions (Plan.make quota interval) b fewer ∨ 1 ≤ d) :
    Near (Plan.make quota interval) t (d + slack (Plan.make quota interval) uses.length)
      (uses.foldl (Bucket.next (Plan.make quota interval)) a)
      (fewer.foldl (Bucket.next (Plan.make quota interval)) b) := by
  have hslack : 0 ≤ slack (Plan.make quota interval) 1 :=
    div_nonneg (mul_nonneg (by positivity) (Binary64.toRat_nonneg _)) (by positivity)
  induction hfewer generalizing a b now d with
  | nil =>
    refine (h.later (hnow (.reserve t) List.mem_cons_self)).mono ?_
    simp [slack]
  | @keep use uses fewer _ ih =>
    obtain ⟨hfirst, -⟩ := List.forall_mem_cons.1 hnow
    obtain ⟨hlater, hrest⟩ := List.pairwise_cons.1 htime
    rw [admissions_cons, admissions_cons _ b] at halike
    have hsplit := halike.imp_left (List.append_inj · (length_admissions _ a b use))
    have hnext := (h.later hfirst).next hinterval (hsplit.imp_left And.left)
    refine (ih hnext hrest hlater ?_).mono (slack_succ_le _ _)
    exact hsplit.imp And.right fun hd => by linarith
  | @skip use uses fewer hreading _ ih =>
    obtain ⟨hfirst, -⟩ := List.forall_mem_cons.1 hnow
    obtain ⟨hlater, hrest⟩ := List.pairwise_cons.1 htime
    rw [admissions_cons, admissions_of_reading hreading, List.nil_append] at halike
    refine (ih ((h.later hfirst).next_left hinterval hreading) hrest hlater ?_).mono
      (slack_succ_le _ _)
    exact halike.imp_right fun hd => by linarith

end Near

/-! ## Leaving out readings -/

/-- A new bucket is as near to itself as can be. -/
lemma near_new {made : Option Instant} (hmade : ∀ m, made = some m → m.nanos ≤ now.nanos)
    (hd : 0 ≤ d) : Near p now d (new p made) (new p made) := by
  have hstarted : (new p made).Started p now := ⟨sound_new hmade, fun _ => rfl⟩
  refine ⟨hstarted, hstarted, ?_⟩
  rwa [sub_self, abs_zero]

/-- **Readings shift levels by rounding only.**  A new bucket is used at instants that do not go
back, and so is another one, without some of the readings.  Then a request finds levels in them that
differ by a token and a small part of the capacity for each use at most.  As long as the same
requests were admitted, they differ by that small part only, and if one bucket admits the request
and the other one does not, then both hold that close to a whole token. -/
theorem readings_shift_levels_by_rounding (quota : UInt64) {made : Option Instant}
    (hinterval : interval.seconds < Duration.secondsLimit) (hfewer : LeavesOut uses fewer)
    (htime : InOrder (uses ++ [.reserve now]))
    (hmade : ∀ m, made = some m → ∀ use ∈ uses ++ [.reserve now], m.nanos ≤ use.now.nanos) :
    let p := Plan.make quota interval
    let a := uses.foldl (next p) (new p made)
    let b := fewer.foldl (next p) (new p made)
    let x := (a.refill p now).tokens.toRat
    let y := (b.refill p now).tokens.toRat
    |x - y| ≤ 1 + slack p (uses.length + 1) ∧
      (admissions p (new p made) uses = admissions p (new p made) fewer →
        |x - y| ≤ slack p (uses.length + 1) ∧
          (admits (a.reserve p now).2 ≠ admits (b.reserve p now).2 →
            |x - 1| ≤ slack p (uses.length + 1) ∧ |y - 1| ≤ slack p (uses.length + 1))) := by
  intro p a b x y
  have hcapacity := p.capacity.toRat_nonneg
  -- some instant that is not after any use and not before the bucket was made
  obtain ⟨start, hstart, hfirst⟩ : ∃ start : Instant,
      (∀ m, made = some m → m.nanos ≤ start.nanos) ∧
        ∀ use ∈ uses ++ [.reserve now], start.nanos ≤ use.now.nanos := by
    cases made with
    | none => exact ⟨⟨0⟩, fun m hm => absurd hm (by simp), fun use _ => Nat.zero_le _⟩
    | some m => exact ⟨m, fun m' hm => Option.some.inj hm ▸ Nat.le_refl _, hmade m rfl⟩
  have hlevels : ∀ d : ℚ, 0 ≤ d →
      (admissions p (new p made) uses = admissions p (new p made) fewer ∨ 1 ≤ d) →
      |x - y| ≤ d + slack p (uses.length + 1) := by
    intro d hd halike
    have hnear := (near_new hstart hd).foldl hinterval hfewer htime hfirst halike
    refine (hnear.abs_refilled_sub_le hinterval).trans (le_trans ?_ (slack_succ_le p uses.length))
    rw [slack, slack]
    push_cast
    linarith
  refine ⟨hlevels 1 zero_le_one (.inr (le_refl 1)), fun halike => ?_⟩
  have hclose : |x - y| ≤ slack p (uses.length + 1) := by
    simpa only [zero_add] using hlevels 0 (le_refl 0) (.inl halike)
  refine ⟨hclose, fun hdiffer => ?_⟩
  have hsides : ¬ (1 ≤ x ↔ 1 ≤ y) := by
    rw [← Binary64.toRat_one, Binary64.toRat_le_toRat, Binary64.toRat_le_toRat,
      ← admits_reserve_iff, ← admits_reserve_iff]
    exact fun hiff => hdiffer (Bool.eq_iff_iff.2 hiff)
  -- the whole token lies between the two levels
  rw [abs_sub_le_iff] at hclose ⊢
  rw [abs_sub_le_iff]
  rcases lt_or_ge x 1 with hx | hx <;> rcases lt_or_ge y 1 with hy | hy
  · exact absurd (iff_of_false hx.not_ge hy.not_ge) hsides
  · exact ⟨⟨by linarith, by linarith⟩, by linarith, by linarith⟩
  · exact ⟨⟨by linarith, by linarith⟩, by linarith, by linarith⟩
  · exact absurd (iff_of_true hx hy) hsides

/-- A reading after two seconds of twelve leaves a level next to a whole token on either side. -/
theorem levels_next_to_a_token :
    let p := Plan.make 5 (.ofSeconds 60)
    let burst : List Use := List.replicate 5 (.reserve ⟨0⟩)
    let a := (burst ++ [Use.isFull ⟨2000000000⟩]).foldl (next p) (new p (some ⟨0⟩))
    let b := burst.foldl (next p) (new p (some ⟨0⟩))
    admits (a.reserve p ⟨12000000000⟩).2 = false ∧ admits (b.reserve p ⟨12000000000⟩).2 = true ∧
      |(a.refill p ⟨12000000000⟩).tokens.toRat - 1| ≤ slack p 7 ∧
      |(b.refill p ⟨12000000000⟩).tokens.toRat - 1| ≤ slack p 7 := by
  intro p burst a b
  have hrejected : admits (a.reserve p ⟨12000000000⟩).2 = false := by decide +kernel
  have hadmitted : admits (b.reserve p ⟨12000000000⟩).2 = true := by decide +kernel
  have hfewer : LeavesOut (burst ++ [Use.isFull ⟨2000000000⟩]) burst :=
    .keep _ (.keep _ (.keep _ (.keep _ (.keep _ (.skip rfl .nil)))))
  have halike : admissions p (new p (some ⟨0⟩)) (burst ++ [Use.isFull ⟨2000000000⟩]) =
      admissions p (new p (some ⟨0⟩)) burst := by
    decide +kernel
  have hinterval : (Duration.ofSeconds 60).seconds < Duration.secondsLimit := by decide
  have htime : InOrder (burst ++ [.isFull ⟨2000000000⟩] ++ [.reserve ⟨12000000000⟩]) := by decide
  have hmade : ∀ m, some (⟨0⟩ : Instant) = some m →
      ∀ use ∈ burst ++ [.isFull ⟨2000000000⟩] ++ [.reserve ⟨12000000000⟩],
        m.nanos ≤ use.now.nanos :=
    fun m hm use _ => Option.some.inj hm ▸ Nat.zero_le _
  obtain ⟨-, hclose⟩ := readings_shift_levels_by_rounding 5 hinterval hfewer htime hmade
  obtain ⟨-, htoken⟩ := hclose halike
  have hdiffer : admits (a.reserve p ⟨12000000000⟩).2 ≠ admits (b.reserve p ⟨12000000000⟩).2 := by
    rw [hrejected, hadmitted]
    exact Bool.false_ne_true
  exact ⟨hrejected, hadmitted, htoken hdiffer⟩

/-- Five tokens a minute, all of them taken at once.  Twelve seconds later the next one is there,
but if the bucket is asked after two seconds whether it is full, a bit of it is still missing. -/
theorem reading_costs_a_token :
    let p := Plan.make 5 (.ofSeconds 60)
    let burst : List Use := List.replicate 5 (.reserve ⟨0⟩)
    let uses := burst ++ [.isFull ⟨2000000000⟩, .reserve ⟨12000000000⟩]
    let fewer := burst ++ [.reserve ⟨12000000000⟩]
    LeavesOut uses fewer ∧ InOrder uses ∧
      (reservations p (new p (some ⟨0⟩)) uses)[5]? = some (some (.reject (.ofMillis 1))) ∧
      (reservations p (new p (some ⟨0⟩)) fewer)[5]? = some (some (.grant 0)) := by
  intro p burst uses fewer
  refine ⟨?_, by decide, by decide +kernel, by decide +kernel⟩
  exact .keep _ (.keep _ (.keep _ (.keep _ (.keep _ (.skip rfl (.keep _ .nil))))))

end Admission.Bucket
