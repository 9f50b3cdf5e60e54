/-
# Computations that can fail

Readers, set-ups and decisions stop at their first fault.  The lemmas here take an outcome apart,
successful or not, carry a property through a fold whose steps can fail, and collect the faults of a
computation from those of its parts (`FailsOnly`).
-/
import Mathlib.Tactic.Common

namespace Admission

variable {α β σ ε δ : Type}

lemma map_eq_ok_iff {f : α → β} {x : Except ε α} {b : β} :
    x.map f = .ok b ↔ ∃ a, x = .ok a ∧ f a = b := by
  cases x <;> simp [Except.map]

lemma map_eq_error_iff {f : α → β} {x : Except ε α} {e : ε} :
    x.map f = .error e ↔ x = .error e := by
  cases x <;> simp [Except.map]

lemma bind_eq_ok_iff {x : Except ε α} {f : α → Except ε β} {b : β} :
    x >>= f = .ok b ↔ ∃ a, x = .ok a ∧ f a = .ok b := by
  cases x <;> simp [bind, Except.bind]

lemma mapError_eq_ok_iff {f : ε → δ} {x : Except ε α} {a : α} :
    x.mapError f = .ok a ↔ x = .ok a := by
  cases x <;> simp [Except.mapError]

lemma bind_eq_error_iff {f : α → Except ε β} {x : Except ε α} {e : ε} :
    x >>= f = .error e ↔ x = .error e ∨ ∃ a, x = .ok a ∧ f a = .error e := by
  cases x <;> simp [bind, Except.bind]

lemma mapError_eq_error_iff {f : ε → δ} {x : Except ε α} {d : δ} :
    x.mapError f = .error d ↔ ∃ e, x = .error e ∧ f e = d := by
  cases x <;> simp [Except.mapError]

/-- What is said of the results and of the faults of a computation is exact, if it is right and
leaves no case out. -/
lemma outcome_iff {P : α → Prop} {Q : ε → Prop} {x : Except ε α} (hok : ∀ a, P a → x = .ok a)
    (herror : ∀ e, Q e → x = .error e) (hall : (∃ a, P a) ∨ ∃ e, Q e) :
    (∀ a, x = .ok a ↔ P a) ∧ ∀ e, x = .error e ↔ Q e := by
  rcases hall with ⟨b, hb⟩ | ⟨d, hd⟩
  · obtain rfl := hok b hb
    refine ⟨fun a => ⟨fun h => ?_, hok a⟩, fun e => ⟨fun h => ?_, herror e⟩⟩
    · exact Except.ok.inj h ▸ hb
    · cases h
  · obtain rfl := herror d hd
    refine ⟨fun a => ⟨fun h => ?_, hok a⟩, fun e => ⟨fun h => ?_, herror e⟩⟩
    · cases h
    · exact Except.error.inj h ▸ hd

lemma foldlM_cons_of_ok {step : σ → α → Except ε σ} {a : α} {s t : σ} (h : step s a = .ok t)
    (xs : List α) : (a :: xs).foldlM step s = xs.foldlM step t := by
  rw [List.foldlM_cons, h]
  rfl

lemma foldlM_append_of_ok {step : σ → α → Except ε σ} {xs : List α} {s t : σ}
    (h : xs.foldlM step s = .ok t) (ys : List α) : (xs ++ ys).foldlM step s = ys.foldlM step t := by
  rw [List.foldlM_append, h]
  rfl

/-- A fold fails where its leftmost step that fails does. -/
lemma foldlM_eq_error_iff {step : σ → α → Except ε σ} {xs : List α} {s : σ} {e : ε} :
    xs.foldlM step s = .error e ↔ ∃ before a after t, xs = before ++ a :: after ∧
      before.foldlM step s = .ok t ∧ step t a = .error e := by
  induction xs generalizing s with
  | nil => simp [pure, Except.pure]
  | cons a xs ih =>
    rw [List.foldlM_cons, bind_eq_error_iff]
    constructor
    · rintro (hfirst | ⟨t, hfirst, hrest⟩)
      · exact ⟨[], a, xs, s, rfl, rfl, hfirst⟩
      · obtain ⟨before, b, after, u, rfl, hbefore, hb⟩ := ih.1 hrest
        exact ⟨a :: before, b, after, u, rfl, (foldlM_cons_of_ok hfirst _).trans hbefore, hb⟩
    · rintro ⟨before, b, after, t, hxs, hbefore, hb⟩
      cases before with
      | nil =>
        obtain ⟨rfl, -⟩ := List.cons.inj hxs
        obtain rfl := Except.ok.inj hbefore
        exact .inl hb
      | cons c before =>
        obtain ⟨rfl, rfl⟩ := List.cons.inj hxs
        rw [List.foldlM_cons, bind_eq_ok_iff] at hbefore
        obtain ⟨u, hfirst, hmore⟩ := hbefore
        exact .inr ⟨u, hfirst, ih.2 ⟨before, b, after, t, rfl, hmore, hb⟩⟩

/-- A property that every step keeps holds at the end if it held at the start. -/
lemma foldlM_keeps {step : σ → α → Except ε σ} {P : σ → Prop} {xs : List α} {s t : σ}
    (hstep : ∀ a ∈ xs, ∀ s s', step s a = .ok s' → P s → P s')
    (h : xs.foldlM step s = .ok t) (hs : P s) : P t := by
  induction xs generalizing s with
  | nil =>
    have : s = t := by simpa [pure, Except.pure] using h
    exact this ▸ hs
  | cons a xs ih =>
    rw [List.foldlM_cons, bind_eq_ok_iff] at h
    obtain ⟨s', hfirst, hrest⟩ := h
    exact ih (fun b hb => hstep b (List.mem_cons_of_mem _ hb)) hrest
      (hstep a List.mem_cons_self s s' hfirst hs)

/-- A translation of states that every step respects is respected by a fold. -/
lemma map_foldlM {τ : Type} {f : σ → τ} {step : σ → α → Except ε σ} {step' : τ → α → Except ε τ}
    (h : ∀ s a, (step s a).map f = step' (f s) a) (xs : List α) (s : σ) :
    (xs.foldlM step s).map f = xs.foldlM step' (f s) := by
  induction xs generalizing s with
  | nil => rfl
  | cons a xs ih =>
    rw [List.foldlM_cons, List.foldlM_cons, ← h]
    cases hs : step s a with
    | error e => rfl
    | ok s' => exact ih s'

/-! ## Which faults there can be -/

/-- If the computation fails, its fault has the property. -/
def FailsOnly (P : ε → Prop) (x : Except ε α) : Prop :=
  ∀ e, x = .error e → P e

namespace FailsOnly

variable {P : ε → Prop} {x : Except ε α}

lemma ok (a : α) : FailsOnly P (.ok a : Except ε α) := by
  intro e h
  exact absurd h (by simp)

lemma error {e : ε} (h : P e) : FailsOnly P (.error e : Except ε α) := by
  rintro _ ⟨⟩
  exact h

lemma bind {f : α → Except ε β} (hx : FailsOnly P x) (hf : ∀ a, FailsOnly P (f a)) :
    FailsOnly P (x >>= f) := by
  intro e h
  rcases bind_eq_error_iff.1 h with hfirst | ⟨a, -, hrest⟩
  · exact hx e hfirst
  · exact hf a e hrest

lemma map {f : α → β} (hx : FailsOnly P x) : FailsOnly P (x.map f) := by
  intro e h
  exact hx e (map_eq_error_iff.1 h)

lemma mapError {f : δ → ε} (x : Except δ α) (hf : ∀ d, P (f d)) : FailsOnly P (x.mapError f) := by
  intro e h
  obtain ⟨d, -, rfl⟩ := mapError_eq_error_iff.1 h
  exact hf d

lemma foldlM {step : σ → α → Except ε σ} (hstep : ∀ s a, FailsOnly P (step s a)) (xs : List α)
    (s : σ) : FailsOnly P (xs.foldlM step s) := by
  induction xs generalizing s with
  | nil => exact ok s
  | cons a xs ih =>
    rw [List.foldlM_cons]
    exact (hstep s a).bind ih

end FailsOnly

end Admission
