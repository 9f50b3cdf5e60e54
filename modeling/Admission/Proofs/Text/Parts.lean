/-
# Texts cut into parts

Paths and the field names of pipelines are written with a separator before each part.  Cutting what
follows the first separator gives back the parts, and they are the only parts without a separator
that the text can be put together from (`splitOn_eq_iff`).
-/
import Admission.Text.Cut
import Mathlib.Tactic.Common

namespace Admission.Text

/-- Parts with a separator before each of them. -/
def separated (sep : Char) (parts : List (List Char)) : List Char :=
  parts.flatMap (sep :: ·)

variable {sep : Char} {cs part : List Char} {parts : List (List Char)}

@[simp] lemma separated_nil : separated sep [] = [] := rfl

@[simp] lemma separated_cons :
    separated sep (part :: parts) = sep :: (part ++ separated sep parts) :=
  rfl

@[simp] lemma separated_append (more : List (List Char)) :
    separated sep (parts ++ more) = separated sep parts ++ separated sep more :=
  List.flatMap_append

lemma separated_eq_singleton_iff : separated sep parts = [sep] ↔ parts = [[]] := by
  rcases parts with _ | ⟨_ | ⟨c, part⟩, _ | ⟨next, parts⟩⟩ <;> simp

lemma splitOn_of_notMem (h : sep ∉ part) : splitOn sep part = [part] := by
  induction part with
  | nil => rfl
  | cons c part ih =>
    rw [List.mem_cons, not_or] at h
    rw [splitOn, if_neg (Ne.symm h.1), ih h.2]

lemma splitOn_append_sep (h : sep ∉ part) :
    splitOn sep (part ++ sep :: cs) = part :: splitOn sep cs := by
  induction part with
  | nil => rw [List.nil_append, splitOn, if_pos rfl]
  | cons c part ih =>
    rw [List.mem_cons, not_or] at h
    rw [List.cons_append, splitOn, if_neg (Ne.symm h.1), ih h.2]

lemma separated_splitOn (sep : Char) (cs : List Char) :
    separated sep (splitOn sep cs) = sep :: cs := by
  induction cs with
  | nil => rfl
  | cons c cs ih =>
    rw [splitOn]
    split
    · rename_i hsep
      rw [separated_cons, ih, hsep, List.nil_append]
    · split
      · rename_i hparts
        exact absurd hparts (splitOn_ne_nil sep cs)
      · rename_i part parts hparts
        rw [hparts, separated_cons, List.cons.injEq] at ih
        rw [separated_cons, List.cons_append, ih.2]

lemma notMem_of_mem_splitOn (h : part ∈ splitOn sep cs) : sep ∉ part := by
  induction cs generalizing part with
  | nil =>
    obtain rfl := List.mem_singleton.1 h
    exact List.not_mem_nil
  | cons c cs ih =>
    rw [splitOn] at h
    split at h
    · rcases List.mem_cons.1 h with rfl | hrest
      · exact List.not_mem_nil
      · exact ih hrest
    · rename_i hsep
      split at h
      · rename_i hparts
        exact absurd hparts (splitOn_ne_nil sep cs)
      · rename_i first parts hparts
        rw [hparts] at ih
        rcases List.mem_cons.1 h with rfl | hrest
        · rw [List.mem_cons, not_or]
          exact ⟨Ne.symm hsep, ih List.mem_cons_self⟩
        · exact ih (List.mem_cons_of_mem _ hrest)

lemma splitOn_of_separated (hne : parts ≠ []) (hparts : ∀ part ∈ parts, sep ∉ part)
    (h : separated sep parts = sep :: cs) : splitOn sep cs = parts := by
  induction parts generalizing cs with
  | nil => exact absurd rfl hne
  | cons part parts ih =>
    obtain ⟨hpart, hmore⟩ := List.forall_mem_cons.1 hparts
    rw [separated_cons, List.cons.injEq] at h
    obtain ⟨-, rfl⟩ := h
    cases parts with
    | nil => rw [separated_nil, List.append_nil, splitOn_of_notMem hpart]
    | cons next parts =>
      rw [separated_cons, splitOn_append_sep hpart, ih (by simp) hmore separated_cons]

/-- The parts of a text are the only ones without a separator that it is put together from. -/
lemma splitOn_eq_iff : splitOn sep cs = parts ↔
    separated sep parts = sep :: cs ∧ ∀ part ∈ parts, sep ∉ part := by
  constructor
  · rintro rfl
    exact ⟨separated_splitOn sep cs, fun part hpart => notMem_of_mem_splitOn hpart⟩
  · rintro ⟨h, hparts⟩
    have hne : parts ≠ [] := by
      rintro rfl
      simp at h
    exact splitOn_of_separated hne hparts h

end Admission.Text
