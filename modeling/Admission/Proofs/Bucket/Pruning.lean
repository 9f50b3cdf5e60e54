/-
# The size of a table

A table grows by one bucket at a time and prunes itself when it grows past a limit, which every
prune sets anew (`due`).  The limit is kept through all calls: a call that adds a bucket finds it
full, so it has an answer and goes on to prune, and a call without an answer adds nothing.  A prune
drops the buckets that are full and only those (`table_stays_bounded`).
-/
import Admission.Proofs.Bucket.Plans
import Admission.Proofs.Bucket.Runs
import Admission.Proofs.Bucket.Uses

namespace Admission.Bucket

/-- A new bucket has an answer: it gives a token, or it tells that there will never be one. -/
lemma isSome_reserve_new (quota : UInt64) (interval : Duration) (made : Option Instant)
    (now : Instant) :
    ((new (.make quota interval) made).reserve (.make quota interval) now).2.isSome = true := by
  have hfull := tokens_refill_of_full (b := new (.make quota interval) made)
    (exact_capacity quota interval) rfl now
  rcases Nat.eq_zero_or_pos quota.toNat with hnone | hquota
  · have hmissing : ¬ Binary64.one ≤
        ((new (.make quota interval) made).refill (.make quota interval) now).tokens := by
      rw [hfull, capacity_make, hnone, Binary64.ofNat_zero]
      exact Binary64.not_le.2 Binary64.zero_lt_one
    have hdry : ¬ Binary64.zero < (Plan.make quota interval).rate := by
      rw [rate_eq_zero hnone]
      exact Nat.lt_irrefl 0
    rw [snd_reserve_of_dry hmissing hdry, Option.isSome_some]
  · have htoken : Binary64.one ≤
        ((new (.make quota interval) made).refill (.make quota interval) now).tokens := by
      rw [hfull, capacity_make]
      exact Binary64.one_le_ofNat hquota
    rw [snd_reserve_of_token htoken, Option.isSome_some]

namespace Table

/-! ## Calls -/

/-- The table with a bucket of an event.  A bucket that is not there yet is made at an instant, or
left to be made when it is asked for. -/
def opened (t : Table) (event : String) : Option Instant → Table
  | none => t
  | some made => { t with buckets := t.buckets.insertIfNew event (new t.plan (some made)) }

/-- A call to a limiter. -/
inductive Call where
  /-- A token of an event is asked for at an instant.  If the event has no bucket, one is made, at
  an instant that need not be the same. -/
  | reserve (event : String) (made : Option Instant) (now : Instant)
  /-- The table is pruned at an instant. -/
  | prune (now : Instant)

namespace Call

/-- The instant of a call. -/
def now : Call → Instant
  | .reserve _ _ now => now
  | .prune now => now

/-- The table after a call. -/
def perform (t : Table) : Call → Table
  | .reserve event made now => ((t.opened event made).reserve event now).1
  | .prune now => t.prune now

/-- The table as a call leaves it, or as it prunes it. -/
def charge (t : Table) : Call → Table
  | .reserve event made now => (t.opened event made).charged event now
  | .prune _ => t

/-- Whether a call prunes the table. -/
def prunes (t : Table) : Call → Bool
  | .reserve event made now => (t.opened event made).prunesAfter event now
  | .prune _ => true

end Call

/-- The limit of a table's size after a prune that left some buckets, or before any prune. -/
def due (threshold : Nat) : Option Nat → Nat
  | none => threshold
  | some left => max threshold (min (2 * left) maxCount)

/-- A table, and what is known of the calls that led to it. -/
structure History where
  /-- The table as it stands. -/
  table : Table
  /-- The number of buckets that the latest prune left. -/
  left : Option Nat

namespace History

/-- A limiter that has not been called. -/
def start (quota : UInt64) (interval : Duration) (threshold : Nat) : History :=
  ⟨.empty quota interval threshold, none⟩

/-- One more call. -/
def next (h : History) (call : Call) : History :=
  ⟨call.perform h.table,
    if call.prunes h.table then some (call.perform h.table).size else h.left⟩

end History

variable {t : Table} {event other : String} {made : Option Instant} {now : Instant} {call : Call}
  {quota : UInt64} {interval : Duration} {threshold : Nat} {b : Bucket}

/-! ## One call -/

lemma perform_eq (t : Table) (call : Call) :
    call.perform t =
      if call.prunes t then (call.charge t).prune call.now else call.charge t := by
  cases call with
  | reserve event made now => exact reserve_fst _ event now
  | prune now => rfl

lemma plan_opened : (t.opened event made).plan = t.plan := by
  cases made <;> rfl

lemma threshold_opened : (t.opened event made).threshold = t.threshold := by
  cases made <;> rfl

lemma nextPrune_opened : (t.opened event made).nextPrune = t.nextPrune := by
  cases made <;> rfl

/-- A call finds the bucket of its event, or a new one. -/
lemma bucket_opened :
    (t.opened event made).bucket event = t.buckets[event]?.getD (new t.plan made) := by
  cases made with
  | none => exact Std.HashMap.getD_eq_getD_getElem?
  | some made =>
    rw [bucket, Std.HashMap.getD_eq_getD_getElem?, opened, Std.HashMap.getElem?_insertIfNew]
    by_cases hmem : event ∈ t.buckets
    · obtain ⟨b, hb⟩ := Option.isSome_iff_exists.1 (Std.HashMap.mem_iff_isSome_getElem?.1 hmem)
      rw [if_neg fun hnew => hnew.2 hmem, hb, Option.getD_some, Option.getD_some]
    · have hnone : t.buckets[event]? = none := by
        rwa [← Option.not_isSome_iff_eq_none, ← Std.HashMap.mem_iff_isSome_getElem?]
      rw [if_pos ⟨beq_self_eq_true event, hmem⟩, hnone, Option.getD_some, Option.getD_none]

/-- A call changes no bucket but that of its event. -/
lemma getElem?_charge (other : String) :
    ((t.opened event made).charged event now).buckets[other]? =
      if event = other then
        some ((t.buckets[event]?.getD (new t.plan made)).reserve t.plan now).1
      else t.buckets[other]? := by
  rw [getElem?_charged, bucket_opened, plan_opened]
  by_cases hevent : event = other
  · rw [if_pos hevent, if_pos hevent]
  rw [if_neg hevent, if_neg hevent]
  cases made with
  | none => rfl
  | some made =>
    rw [opened, Std.HashMap.getElem?_insertIfNew]
    exact if_neg fun hnew => hevent (beq_iff_eq.1 hnew.1)

/-- A call adds a bucket if its event has none. -/
lemma size_charge :
    ((t.opened event made).charged event now).size =
      if event ∈ t.buckets then t.size else t.size + 1 := by
  rw [charged, size, Std.HashMap.size_insert]
  cases made with
  | none => rfl
  | some made =>
    have hmem : event ∈ (t.opened event (some made)).buckets :=
      Std.HashMap.mem_insertIfNew.2 (.inl (beq_self_eq_true event))
    rw [if_pos hmem, opened, Std.HashMap.size_insertIfNew]
    rfl

lemma size_charge_le (t : Table) (call : Call) : (call.charge t).size ≤ t.size + 1 := by
  cases call with
  | reserve event made now =>
    rw [Call.charge, size_charge]
    split <;> omega
  | prune now => exact Nat.le_succ _

lemma size_perform_le (t : Table) (call : Call) : (call.perform t).size ≤ t.size + 1 := by
  rw [perform_eq]
  split
  · exact (size_prune_le _ _).trans (size_charge_le t call)
  · exact size_charge_le t call

/-! ## Histories -/

/-- What holds of a limiter through all its calls. -/
structure Kept (quota : UInt64) (interval : Duration) (threshold : Nat) (h : History) : Prop where
  plan_eq : h.table.plan = .make quota interval
  threshold_eq : h.table.threshold = threshold
  nextPrune_eq : h.table.nextPrune = due threshold h.left
  size_le : h.table.size ≤ maxCount → h.table.size ≤ h.table.nextPrune
  level_le : ∀ (event : String) (b : Bucket),
    h.table.buckets[event]? = some b → b.tokens ≤ h.table.plan.capacity

variable {h : History}

lemma Kept.start : Kept quota interval threshold (.start quota interval threshold) where
  plan_eq := rfl
  threshold_eq := rfl
  nextPrune_eq := rfl
  size_le _ := by
    have hsize : (Table.empty quota interval threshold).size = 0 := Std.HashMap.size_empty
    rw [History.start, hsize]
    exact Nat.zero_le _
  level_le event b hb := by
    have hnone : (Table.empty quota interval threshold).buckets[event]? = none :=
      Std.HashMap.getElem?_empty
    rw [History.start, hnone] at hb
    exact absurd hb (Option.some_ne_none b).symm

lemma plan_charge (t : Table) (call : Call) : (call.charge t).plan = t.plan := by
  cases call with
  | reserve event made now => exact plan_opened
  | prune now => rfl

lemma threshold_charge (t : Table) (call : Call) : (call.charge t).threshold = t.threshold := by
  cases call with
  | reserve event made now => exact threshold_opened
  | prune now => rfl

lemma nextPrune_charge (t : Table) (call : Call) : (call.charge t).nextPrune = t.nextPrune := by
  cases call with
  | reserve event made now => exact nextPrune_opened
  | prune now => rfl

lemma Kept.level_charge (hk : Kept quota interval threshold h)
    (hb : (call.charge h.table).buckets[event]? = some b) : b.tokens ≤ h.table.plan.capacity := by
  cases call with
  | reserve event' made now =>
    rw [Call.charge, getElem?_charge] at hb
    split at hb
    · obtain rfl := Option.some.inj hb
      have hexact : Binary64.Exact h.table.plan.capacity.units := by
        rw [hk.plan_eq]
        exact exact_capacity quota interval
      refine tokens_reserve_le hexact ?_ now
      cases hfound : h.table.buckets[event']? with
      | none => exact Nat.le_refl _
      | some found => exact hk.level_le event' found hfound
    · exact hk.level_le event b hb
  | prune now => exact hk.level_le event b hb

/-- A prune drops the buckets that hold their capacity when they are refilled. -/
lemma Kept.getElem?_prune_charge (hk : Kept quota interval threshold h) (event : String) :
    ((call.charge h.table).prune now).buckets[event]? =
      (call.charge h.table).buckets[event]?.bind fun b =>
        if (b.refill h.table.plan now).tokens = h.table.plan.capacity then none
        else some (b.refill h.table.plan now) := by
  rw [getElem?_prune, plan_charge]
  refine Option.bind_congr fun b hb => ?_
  have hlevel := tokens_refill_le (hk.level_charge hb) now
  have hfull : (b.refill h.table.plan now).isFull h.table.plan = true ↔
      (b.refill h.table.plan now).tokens = h.table.plan.capacity := by
    rw [isFull, decide_eq_true_iff]
    exact ⟨fun hle => Binary64.ext (Nat.le_antisymm hlevel hle), fun heq => heq ▸ Nat.le_refl _⟩
  rw [spent?]
  simp only [hfull]

/-- A call that does not prune stays within the limit. -/
lemma Kept.size_le_of_not_prunes (hk : Kept quota interval threshold h)
    (hprunes : call.prunes h.table = false) (hsize : (call.charge h.table).size ≤ maxCount) :
    (call.charge h.table).size ≤ h.table.nextPrune := by
  cases call with
  | prune now => exact absurd hprunes (by simp [Call.prunes])
  | reserve event made now =>
    by_cases hmem : event ∈ h.table.buckets
    · rw [Call.charge, size_charge, if_pos hmem] at hsize ⊢
      exact hk.size_le hsize
    · -- the new bucket is full, so that the call has an answer and would have pruned
      have hnone : h.table.buckets[event]? = none := by
        rwa [← Option.not_isSome_iff_eq_none, ← Std.HashMap.mem_iff_isSome_getElem?]
      rw [Call.prunes, ← Bool.not_eq_true, prunesAfter_iff, bucket_opened, hnone, plan_opened,
        Option.getD_none, hk.plan_eq] at hprunes
      refine Nat.le_of_not_lt fun hlt => hprunes ⟨isSome_reserve_new quota interval made now, ?_⟩
      exact lt_of_eq_of_lt nextPrune_opened hlt

/-- A prune sets the limit to twice the number of buckets that it leaves. -/
lemma size_le_due {left : Nat} (h : left ≤ maxCount) : left ≤ due threshold (some left) := by
  rw [due]
  omega

lemma Kept.next (hk : Kept quota interval threshold h) (call : Call) :
    Kept quota interval threshold (h.next call) := by
  rw [History.next, perform_eq]
  cases hprunes : call.prunes h.table with
  | true =>
    rw [if_pos rfl, if_pos rfl]
    have hdue : ((call.charge h.table).prune call.now).nextPrune =
        due threshold (some ((call.charge h.table).prune call.now).size) := by
      rw [nextPrune_prune, threshold_charge, hk.threshold_eq, due]
    refine ⟨(plan_charge _ call).trans hk.plan_eq, (threshold_charge _ call).trans hk.threshold_eq,
      hdue, fun hsize => hdue ▸ size_le_due hsize, fun event b hb => ?_⟩
    dsimp only at hb
    rw [hk.getElem?_prune_charge, Option.bind_eq_some_iff] at hb
    obtain ⟨before, hbefore, hb⟩ := hb
    rw [Option.ite_none_left_eq_some] at hb
    obtain rfl := Option.some.inj hb.2
    show _ ≤ (call.charge h.table).plan.capacity
    rw [plan_charge]
    exact tokens_refill_le (hk.level_charge hbefore) call.now
  | false =>
    rw [if_neg Bool.false_ne_true, if_neg Bool.false_ne_true]
    have hlimit : (call.charge h.table).nextPrune = h.table.nextPrune := nextPrune_charge _ call
    refine ⟨(plan_charge _ call).trans hk.plan_eq, (threshold_charge _ call).trans hk.threshold_eq,
      hlimit.trans hk.nextPrune_eq, fun hsize => ?_, fun event b hb => ?_⟩
    · exact hlimit ▸ hk.size_le_of_not_prunes hprunes hsize
    · show _ ≤ (call.charge h.table).plan.capacity
      rw [plan_charge]
      exact hk.level_charge hb

lemma kept_foldl (calls : List Call) :
    Kept quota interval threshold
      (calls.foldl History.next (.start quota interval threshold)) := by
  induction calls using List.reverseRecOn with
  | nil => exact .start
  | append_singleton calls call ih =>
    rw [List.foldl_append]
    exact ih.next call

lemma mem_charge (call : Call) (h : event ∈ t.buckets) : event ∈ (call.charge t).buckets := by
  cases call with
  | reserve event' made now =>
    rw [Std.HashMap.mem_iff_isSome_getElem?] at h ⊢
    rw [Call.charge, getElem?_charge]
    split
    · exact Option.isSome_some
    · exact h
  | prune now => exact h

/-- **A table stays bounded and prunes idle buckets only.**  After any calls, at any instants, one
more call leaves the limit that the latest prune has set, which is twice the number of buckets that
it left but not less than the threshold, and no more buckets than that (if they can be counted in 64
bits).  The call adds at most one bucket.  If it prunes, it drops exactly the buckets that are full
then, and keeps the others as they are; otherwise it drops none. -/
theorem table_stays_bounded (quota : UInt64) (interval : Duration) (threshold : Nat)
    (calls : List Call) (call : Call) :
    let h := calls.foldl History.next (.start quota interval threshold)
    let after := h.next call
    after.table.nextPrune = due threshold after.left ∧
      (after.table.size ≤ maxCount → after.table.size ≤ after.table.nextPrune) ∧
      after.table.size ≤ h.table.size + 1 ∧
      (call.prunes h.table = true → ∀ event : String, after.table.buckets[event]? =
        (call.charge h.table).buckets[event]?.bind fun b =>
          if (b.refill h.table.plan call.now).tokens = h.table.plan.capacity then none
          else some (b.refill h.table.plan call.now)) ∧
      (call.prunes h.table = false →
        ∀ event : String, event ∈ h.table.buckets → event ∈ after.table.buckets) := by
  intro h after
  have hk : Kept quota interval threshold h := kept_foldl calls
  have hafter : after.table = call.perform h.table := rfl
  refine ⟨(hk.next call).nextPrune_eq, (hk.next call).size_le, size_perform_le h.table call,
    fun hprunes event => ?_, fun hprunes event hmem => ?_⟩
  · rw [hafter, perform_eq, hprunes, if_pos rfl]
    exact hk.getElem?_prune_charge event
  · rw [hafter, perform_eq, hprunes, if_neg Bool.false_ne_true]
    exact mem_charge call hmem

end Table

end Admission.Bucket
