/-
# Runs of characters

A text is cut into its longest runs of characters that agree on a property.  The runs put together
are the text again (`flatten_runs`), and a run that comes to an end is cut off (`runs_append`).
-/
import Admission.Text.Cut
import Mathlib.Tactic.Common

namespace Admission.Text

variable {p : Char → Bool} {run rest : List Char}

/-- The first run of a text starts with the first character. -/
lemma exists_runs_cons (p : Char → Bool) (c : Char) (cs : List Char) :
    ∃ run more, runs p (c :: cs) = (c :: run) :: more := by
  rw [runs]
  split
  · split
    · exact ⟨_, _, rfl⟩
    · exact ⟨_, _, rfl⟩
  · exact ⟨_, _, rfl⟩

lemma flatten_runs (p : Char → Bool) (cs : List Char) : (runs p cs).flatten = cs := by
  induction cs with
  | nil => rfl
  | cons c cs ih =>
    rw [runs]
    split
    · rename_i d run more hruns
      rw [hruns] at ih
      split
      · simpa using ih
      · simpa using ih
    · simpa using ih

/-- A run ends where a character follows that does not agree with it. -/
lemma runs_append {b : Bool} (hne : run ≠ []) (hrun : ∀ c ∈ run, p c = b)
    (hrest : ∀ c ∈ rest.head?, p c = !b) : runs p (run ++ rest) = run :: runs p rest := by
  induction run with
  | nil => exact absurd rfl hne
  | cons c run ih =>
    obtain ⟨hc, hmore⟩ := List.forall_mem_cons.1 hrun
    cases run with
    | nil =>
      cases rest with
      | nil => rfl
      | cons d rest =>
        obtain ⟨next, more, hruns⟩ := exists_runs_cons p d rest
        have hd : p d = !b := hrest d rfl
        have hdiffer : p c ≠ p d := by rw [hc, hd]; simp
        rw [List.singleton_append, runs, hruns]
        dsimp only
        rw [if_neg hdiffer]
    | cons d run =>
      have hagree : p c = p d := by rw [hc, hmore d List.mem_cons_self]
      rw [List.cons_append, runs, ih (by simp) hmore]
      dsimp only
      rw [if_pos hagree]

end Admission.Text
