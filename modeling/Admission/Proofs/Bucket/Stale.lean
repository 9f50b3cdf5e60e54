/-
# Instants that have passed

Clocks of callers may disagree, so a bucket can be used at an instant that is earlier than one it
has been used at before.  Such a use finds the bucket as it stands, which is how it would find it
at the latest instant so far (`refill_later`).  A run therefore answers as if every use came at the
latest instant up to then (`answers_upToDate`), and all refills together give tokens for no more
time than lies between the first use and the latest instant (`sum_credits`).
-/
import Admission.Proofs.Bucket.Uses
import Mathlib.Algebra.GroupWithZero.Nat

namespace Admission

/-- The later of two moments. -/
def Instant.later (a b : Instant) : Instant := ⟨max a.nanos b.nanos⟩

/-- Something worked out for each item of a list from the items before it. -/
def withHistory {α β : Type} (f : List α → α → β) (xs : List α) : List β :=
  xs.mapIdx fun i x => f (xs.take i) x

lemma withHistory_snoc {α β : Type} (f : List α → α → β) (xs : List α) (x : α) :
    withHistory f (xs ++ [x]) = withHistory f xs ++ [f xs x] := by
  rw [withHistory, withHistory, List.mapIdx_concat, List.take_left' rfl]
  congr 1
  refine List.mapIdx_eq_mapIdx_iff.2 fun i hi => ?_
  rw [List.take_append_of_le_length (Nat.le_of_lt hi)]

namespace Bucket

/-! ## Runs at any instants -/

/-- The same use at another instant. -/
def Use.movedTo (now : Instant) : Use → Use
  | .reserve _ => .reserve now
  | .tokens _ => .tokens now
  | .isFull _ => .isFull now

/-- What a use answers. -/
inductive Answer where
  /-- The outcome of asking for a token. -/
  | reserved (outcome : Option Reservation)
  /-- The tokens in the bucket. -/
  | tokens (level : Binary64)
  /-- Whether the bucket is full. -/
  | isFull (full : Bool)
deriving DecidableEq

/-- What a bucket answers to a use. -/
def answer (p : Plan) (b : Bucket) : Use → Answer
  | .reserve now => .reserved (b.reserve p now).2
  | .tokens now => .tokens (b.refill p now).tokens
  | .isFull now => .isFull ((b.refill p now).isFull p)

/-- What the uses of a bucket that starts full answer. -/
def answers (p : Plan) : List Use → List Answer :=
  withHistory fun before use => (run p before).answer p use

/-- The latest instant of some uses. -/
def latest (uses : List Use) : Instant :=
  ⟨(uses.map (·.now.nanos)).foldl max 0⟩

/-- The uses, each at the latest instant up to it. -/
def upToDate : List Use → List Use :=
  withHistory fun before use => use.movedTo (latest (before ++ [use]))

/-- The time that a refill gives tokens for.  A bucket that has not been used is full. -/
def credited (b : Bucket) (now : Instant) : Duration :=
  match b.refilledAt with
  | none => ⟨0⟩
  | some last => now.since last

/-- The time that the refill of each use gives tokens for. -/
def credits (p : Plan) : List Use → List Duration :=
  withHistory fun before use => (run p before).credited use.now

variable {b : Bucket} {p : Plan} {now last : Instant}

lemma latest_snoc (uses : List Use) (use : Use) :
    latest (uses ++ [use]) = (latest uses).later use.now := by
  simp [latest, Instant.later]

lemma latest_singleton (use : Use) : latest [use] = use.now := by
  simp [latest]

/-! ## A single use -/

/-- A refill adds what comes in during the time that it credits, and nothing else. -/
lemma tokens_refill (b : Bucket) (p : Plan) (now : Instant) :
    (b.refill p now).tokens =
      if (b.credited now).nanos = 0 then b.tokens
      else min (b.tokens + (b.credited now).asSeconds * p.rate) p.capacity := by
  rw [refill, credited]
  cases b.refilledAt with
  | none => rfl
  | some last =>
    by_cases hafter : now.isAfter last = true
    · have hpos : (now.since last).nanos ≠ 0 := by
        simp only [Instant.isAfter, decide_eq_true_eq] at hafter
        exact Nat.sub_ne_zero_of_lt hafter
      dsimp only
      rw [if_pos hafter, if_neg hpos]
    · have hzero : (now.since last).nanos = 0 := by
        simp only [Instant.isAfter, decide_eq_true_eq, Nat.not_lt] at hafter
        exact Nat.sub_eq_zero_of_le hafter
      dsimp only
      rw [if_neg hafter, if_pos hzero]

lemma refilledAt_refill (h : b.refilledAt = some last) :
    (b.refill p now).refilledAt = some (last.later now) := by
  rw [refill, h]
  dsimp only
  split
  · rename_i hafter
    simp only [Instant.isAfter, decide_eq_true_eq] at hafter
    rw [Instant.later, Nat.max_eq_right (Nat.le_of_lt hafter)]
  · rename_i hafter
    simp only [Instant.isAfter, decide_eq_true_eq, Nat.not_lt] at hafter
    rw [Instant.later, Nat.max_eq_left hafter, h]

/-- A bucket cannot tell an instant that has passed from the latest one. -/
lemma refill_later (h : b.refilledAt = some last) :
    b.refill p (last.later now) = b.refill p now := by
  rcases Nat.le_total now.nanos last.nanos with hle | hle
  · have hstale : last.later now = last := by rw [Instant.later, Nat.max_eq_left hle]
    rw [hstale, refill_of_passed h hle, refill_of_passed h (Nat.le_refl _)]
  · rw [Instant.later, Nat.max_eq_right hle]

lemma answer_movedTo {t : Instant} {use : Use} (h : b.refill p t = b.refill p use.now) :
    b.answer p (use.movedTo t) = b.answer p use := by
  cases use with
  | reserve now => rw [Use.movedTo, answer, answer, reserve_congr h, Use.now]
  | tokens now => exact congrArg (fun b => Answer.tokens b.tokens) h
  | isFull now => exact congrArg (fun b => Answer.isFull (b.isFull p)) h

lemma next_movedTo {t : Instant} {use : Use} (h : b.refill p t = b.refill p use.now) :
    next p b (use.movedTo t) = next p b use := by
  cases use with
  | reserve now => rw [Use.movedTo, next, next, reserve_congr h, Use.now]
  | tokens now => exact h
  | isFull now => exact h

lemma refilledAt_next (p : Plan) (b : Bucket) (use : Use) :
    (next p b use).refilledAt = (b.refill p use.now).refilledAt := by
  cases use with
  | reserve now => rw [next, refilledAt_reserve, Use.now]
  | tokens now => rfl
  | isFull now => rfl

/-! ## Runs -/

/-- Through every branch, a bucket keeps the latest instant at which it has been used. -/
lemma refilledAt_run (p : Plan) {uses : List Use} (huses : uses ≠ []) :
    (run p uses).refilledAt = some (latest uses) := by
  induction uses using List.reverseRecOn with
  | nil => exact absurd rfl huses
  | append_singleton uses use ih =>
    rw [run_snoc, refilledAt_next]
    by_cases hfirst : uses = []
    · subst hfirst
      rw [List.nil_append, latest_singleton]
      rfl
    · rw [refilledAt_refill (ih hfirst), latest_snoc]

lemma refill_run_latest (p : Plan) (uses : List Use) (use : Use) :
    (run p uses).refill p (latest (uses ++ [use])) = (run p uses).refill p use.now := by
  by_cases hfirst : uses = []
  · subst hfirst
    rw [List.nil_append, latest_singleton]
  · rw [latest_snoc, refill_later (refilledAt_run p hfirst)]

lemma run_upToDate (p : Plan) (uses : List Use) : run p (upToDate uses) = run p uses := by
  induction uses using List.reverseRecOn with
  | nil => rfl
  | append_singleton uses use ih =>
    rw [upToDate, withHistory_snoc, run_snoc, run_snoc]
    rw [upToDate] at ih
    rw [ih]
    exact next_movedTo (refill_run_latest p uses use)

lemma answers_upToDate (p : Plan) (uses : List Use) :
    answers p (upToDate uses) = answers p uses := by
  induction uses using List.reverseRecOn with
  | nil => rfl
  | append_singleton uses use ih =>
    have hrun := run_upToDate p uses
    rw [upToDate, answers] at ih ⊢
    rw [upToDate] at hrun
    rw [withHistory_snoc, withHistory_snoc, withHistory_snoc, ih, hrun]
    rw [answer_movedTo (refill_run_latest p uses use)]

/-- Each refill credits the time from the latest instant before it, so all of them together credit
the time from the first use to the latest instant. -/
lemma sum_credits (p : Plan) (first : Use) (uses : List Use) :
    ((credits p (first :: uses)).map (·.nanos)).sum + first.now.nanos =
      (latest (first :: uses)).nanos := by
  induction uses using List.reverseRecOn with
  | nil => simp [credits, withHistory, run, full, credited, latest]
  | append_singleton uses use ih =>
    have hrun := refilledAt_run p (List.cons_ne_nil first uses)
    rw [← List.cons_append, latest_snoc, credits, withHistory_snoc, List.map_append,
      List.sum_append]
    have hlast : ((run p (first :: uses)).credited use.now).nanos =
        use.now.nanos - (latest (first :: uses)).nanos := by
      rw [credited, hrun]
      rfl
    have hlater : ((latest (first :: uses)).later use.now).nanos =
        max (latest (first :: uses)).nanos use.now.nanos :=
      rfl
    rw [List.map_singleton, List.sum_singleton, hlast, hlater]
    rw [credits] at ih
    omega

/-- **Instants that have passed bring no tokens.**  A refill adds what comes in during the time
that it credits.  Whatever instants a bucket is used at, in whatever order, it answers as if each
use came at the latest instant up to it, and the refills after the first use credit exactly the
time from the first use to the latest instant of all. -/
theorem passed_instants_bring_no_tokens (p : Plan) :
    (∀ (b : Bucket) (now : Instant), (b.refill p now).tokens =
      if (b.credited now).nanos = 0 then b.tokens
      else min (b.tokens + (b.credited now).asSeconds * p.rate) p.capacity) ∧
    (∀ uses : List Use, answers p uses = answers p (upToDate uses)) ∧
    ∀ (first : Use) (uses : List Use),
      (((credits p (first :: uses)).drop 1).map (·.nanos)).sum =
        (latest (first :: uses)).nanos - first.now.nanos := by
  refine ⟨fun b now => tokens_refill b p now, fun uses => (answers_upToDate p uses).symm, ?_⟩
  intro first uses
  have hsum := sum_credits p first uses
  -- the first use finds a bucket that has not been used
  obtain ⟨rest, hrest⟩ : ∃ rest, credits p (first :: uses) = ⟨0⟩ :: rest := by
    rw [credits, withHistory, List.mapIdx_cons]
    exact ⟨_, rfl⟩
  rw [hrest] at hsum ⊢
  simp only [List.map_cons, List.sum_cons, List.drop_succ_cons, List.drop_zero] at hsum ⊢
  omega

end Bucket

end Admission
