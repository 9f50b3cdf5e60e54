/-
# Texts around a separator

Keys are put together from parts with a separator between them.  If the parts may hold the
separator themselves, the same key can be cut in more than one way; `append_sep_eq_iff` says
exactly when, and `append_sep_inj` that it cannot happen if what follows is free of it.
-/
import Mathlib.Tactic.Common

namespace Admission.Text

variable {α : Type} {sep : α} {a b c d : List α}

/-- Two texts with a separator after their first parts are the same if the parts are, or if one
of the first parts goes on after a separator of its own. -/
lemma append_sep_eq_iff :
    a ++ sep :: b = c ++ sep :: d ↔
      (a = c ∧ b = d) ∨ (∃ x, c = a ++ sep :: x ∧ b = x ++ sep :: d) ∨
        ∃ x, a = c ++ sep :: x ∧ d = x ++ sep :: b := by
  constructor
  · intro h
    rcases List.append_eq_append_iff.1 h with ⟨e, hc, hb⟩ | ⟨e, ha, hd⟩
    · cases e with
      | nil => exact .inl ⟨by simpa using hc.symm, by simpa using hb⟩
      | cons s x =>
        rw [List.cons_append, List.cons.injEq] at hb
        obtain ⟨rfl, hrest⟩ := hb
        exact .inr (.inl ⟨x, hc, hrest⟩)
    · cases e with
      | nil => exact .inl ⟨by simpa using ha, by simpa using hd.symm⟩
      | cons s x =>
        rw [List.cons_append, List.cons.injEq] at hd
        obtain ⟨rfl, hrest⟩ := hd
        exact .inr (.inr ⟨x, ha, hrest⟩)
  · rintro (⟨rfl, rfl⟩ | ⟨x, rfl, rfl⟩ | ⟨x, rfl, rfl⟩) <;> simp

/-- The last separator of a text shows where it was put together. -/
lemma append_sep_inj (hb : sep ∉ b) (hd : sep ∉ d) :
    a ++ sep :: b = c ++ sep :: d ↔ a = c ∧ b = d := by
  rw [append_sep_eq_iff]
  constructor
  · rintro (h | ⟨x, -, rfl⟩ | ⟨x, -, rfl⟩)
    · exact h
    · exact absurd (by simp) hb
    · exact absurd (by simp) hd
  · exact .inl

end Admission.Text
