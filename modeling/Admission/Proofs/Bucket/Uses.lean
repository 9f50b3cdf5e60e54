/-
# Uses of a bucket

A bucket is asked for tokens, and it is asked for its level, which refills it as well.  However it
is used, it holds a number of the format and no more than its capacity, and as long as its uses are
in order it is sound.
-/
import Admission.Proofs.Bucket.Level
import Mathlib.Data.List.Induction

namespace Admission.Bucket

/-- Something that is done with a bucket. -/
inductive Use where
  /-- A token is asked for at an instant. -/
  | reserve (now : Instant)
  /-- The tokens are read at an instant. -/
  | tokens (now : Instant)
  /-- The bucket is asked at an instant whether it is full. -/
  | isFull (now : Instant)
deriving DecidableEq

/-- The instant of a use. -/
def Use.now : Use → Instant
  | .reserve now => now
  | .tokens now => now
  | .isFull now => now

/-- The bucket after a use. -/
def next (p : Plan) (b : Bucket) : Use → Bucket
  | .reserve now => (b.reserve p now).1
  | .tokens now => b.refill p now
  | .isFull now => b.refill p now

/-- A bucket that starts full, after it has been used. -/
def run (p : Plan) (uses : List Use) : Bucket :=
  uses.foldl (next p) (full p)

/-- A new bucket.  It is full, and it was made at an instant or, if none is given, before all
instants it can be used at. -/
def new (p : Plan) (made : Option Instant) : Bucket := ⟨p.capacity, made⟩

/-- What the reservations among some uses of a bucket answer. -/
def reservations (p : Plan) : Bucket → List Use → List (Option Reservation)
  | _, [] => []
  | b, .reserve now :: uses => (b.reserve p now).2 :: reservations p (b.reserve p now).1 uses
  | b, .tokens now :: uses => reservations p (b.refill p now) uses
  | b, .isFull now :: uses => reservations p (b.refill p now) uses

/-- The instants of the uses never go back. -/
def InOrder (uses : List Use) : Prop :=
  uses.Pairwise fun a b => a.now.nanos ≤ b.now.nanos

instance (uses : List Use) : Decidable (InOrder uses) :=
  inferInstanceAs (Decidable (List.Pairwise _ _))

variable {b : Bucket} {p : Plan}

lemma run_snoc (p : Plan) (uses : List Use) (use : Use) :
    run p (uses ++ [use]) = next p (run p uses) use :=
  List.foldl_append

/-! ## Numbers of the format -/

lemma exact_refill (hp : Binary64.Exact p.capacity.units) (h : Binary64.Exact b.tokens.units)
    (now : Instant) : Binary64.Exact (b.refill p now).tokens.units := by
  rw [refill]
  split
  · exact h
  · split
    · exact Binary64.exact_min (Binary64.exact_ofQuotient _ _) hp
    · exact h

lemma exact_next (hp : Binary64.Exact p.capacity.units) (h : Binary64.Exact b.tokens.units)
    (use : Use) : Binary64.Exact (next p b use).tokens.units := by
  cases use with
  | reserve now =>
    rw [next]
    by_cases htoken : Binary64.one ≤ (b.refill p now).tokens
    · rw [fst_reserve_of_token htoken]
      exact Binary64.exact_ofQuotient _ _
    · rw [fst_reserve_of_missing htoken]
      exact exact_refill hp h now
  | tokens now => exact exact_refill hp h now
  | isFull now => exact exact_refill hp h now

lemma exact_foldl_next (hp : Binary64.Exact p.capacity.units)
    (h : Binary64.Exact b.tokens.units) (uses : List Use) :
    Binary64.Exact (uses.foldl (next p) b).tokens.units := by
  induction uses generalizing b with
  | nil => exact h
  | cons use uses ih => exact ih (exact_next hp h use)

/-! ## Levels -/

lemma tokens_next_le (hp : Binary64.Exact p.capacity.units) (h : b.tokens ≤ p.capacity)
    (use : Use) : (next p b use).tokens ≤ p.capacity := by
  cases use with
  | reserve now =>
    rw [next]
    exact tokens_reserve_le hp h now
  | tokens now => exact tokens_refill_le h now
  | isFull now => exact tokens_refill_le h now

/-! ## Soundness -/

lemma Sound.next (hp : Binary64.Exact p.capacity.units) {use : Use} (h : b.Sound p use.now) :
    (next p b use).Sound p use.now := by
  cases use with
  | reserve now => exact h.reserve hp
  | tokens now => exact h.refill
  | isFull now => exact h.refill

lemma sound_new {made : Option Instant} {now : Instant}
    (hmade : ∀ m, made = some m → m.nanos ≤ now.nanos) : (new p made).Sound p now :=
  ⟨Nat.le_refl _, hmade⟩

/-- After uses in order, none of them earlier than the bucket was made, the bucket is sound at the
next use. -/
lemma sound_foldl_next (hp : Binary64.Exact p.capacity.units) {made : Option Instant}
    {uses : List Use} {use : Use} (htime : InOrder (uses ++ [use]))
    (hmade : ∀ m, made = some m → ∀ u ∈ uses ++ [use], m.nanos ≤ u.now.nanos) :
    (uses.foldl (Bucket.next p) (new p made)).Sound p use.now := by
  induction uses using List.reverseRecOn generalizing use with
  | nil => exact sound_new fun m hm => hmade m hm use (by simp)
  | append_singleton uses last ih =>
    obtain ⟨hbefore, -, hlast⟩ := List.pairwise_append.1 htime
    have hsound := ih hbefore fun m hm u hu => hmade m hm u (List.mem_append_left _ hu)
    rw [List.foldl_append]
    exact (hsound.next hp).later (hlast last (by simp) use (by simp))

end Admission.Bucket
