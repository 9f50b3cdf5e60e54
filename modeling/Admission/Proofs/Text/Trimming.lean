/-
# Texts without outer blanks

Names are trimmed wherever an expression gives them.  Taking the blanks off the end of a text leaves
its beginning alone, so a text that has been trimmed is not changed by trimming it once more
(`trimmed_trimmed`).
-/
import Admission.Text.Blank
import Mathlib.Data.List.DropRight

namespace Admission.Text

variable {cs : List Char}

lemma trimStart_trimStart (cs : List Char) : trimStart (trimStart cs) = trimStart cs :=
  List.dropWhile_idempotent _ _

lemma trimEnd_trimEnd (cs : List Char) : trimEnd (trimEnd cs) = trimEnd cs :=
  List.rdropWhile_idempotent _ _

lemma trimEnd_isPrefix (cs : List Char) : trimEnd cs <+: cs :=
  List.rdropWhile_prefix _ cs

/-- A blank at the start would have been dropped. -/
lemma not_isBlank_of_trimStart_eq {c : Char} (h : trimStart (c :: cs) = c :: cs) :
    isBlank c = false := by
  refine Bool.eq_false_iff.2 fun hblank => ?_
  rw [trimStart_cons_of_blank _ hblank] at h
  have hlength : (trimStart cs).length ≤ cs.length := (List.dropWhile_suffix isBlank).length_le
  rw [h, List.length_cons] at hlength
  omega

/-- No beginning of a text starts with a blank unless the text itself does. -/
lemma trimStart_eq_self_of_prefix {front : List Char} (hfront : front <+: cs)
    (h : trimStart cs = cs) : trimStart front = front := by
  obtain ⟨rest, rfl⟩ := hfront
  cases front with
  | nil => rfl
  | cons c front => exact trimStart_cons_of_not_blank front (not_isBlank_of_trimStart_eq h)

/-- What stands before something other than blanks is not touched at the end. -/
lemma trimEnd_append {front : List Char} (h : trimEnd cs ≠ []) :
    trimEnd (front ++ cs) = front ++ trimEnd cs := by
  rw [trimEnd_eq_reverse] at h ⊢
  rw [ne_eq, List.reverse_eq_nil_iff, trimStart] at h
  rw [List.reverse_append, trimStart, List.dropWhile_append, if_neg (by simpa using h),
    List.reverse_append, List.reverse_reverse]
  rfl

lemma trimEnd_singleton {c : Char} (h : isBlank c = false) : trimEnd [c] = [c] := by
  simp [trimEnd, h]

lemma trimEnd_eq_self {c : Char} (hlast : cs.getLast? = some c) (h : isBlank c = false) :
    trimEnd cs = cs := by
  obtain ⟨front, rfl⟩ := List.getLast?_eq_some_iff.1 hlast
  rw [trimEnd_append (by simp [trimEnd_singleton h]), trimEnd_singleton h]

/-- The two ends are trimmed in either order. -/
lemma trimStart_trimEnd (cs : List Char) : trimStart (trimEnd cs) = trim cs := by
  rw [trim]
  induction cs with
  | nil => rfl
  | cons c cs ih =>
    cases hblank : isBlank c with
    | true =>
      rw [trimStart_cons_of_blank cs hblank, ← ih]
      by_cases hrest : trimEnd cs = []
      · -- the text is blank throughout
        have hall : trimEnd (c :: cs) = [] := by
          rw [trimEnd, List.reverse_eq_nil_iff, List.dropWhile_eq_nil_iff] at hrest ⊢
          intro d hd
          rw [List.mem_reverse, List.mem_cons] at hd
          rcases hd with rfl | hd
          · exact hblank
          · exact hrest d (List.mem_reverse.2 hd)
        rw [hall, hrest]
      · rw [← List.singleton_append, trimEnd_append hrest, List.singleton_append,
          trimStart_cons_of_blank _ hblank]
    | false =>
      rw [trimStart_cons_of_not_blank cs hblank]
      exact trimStart_eq_self_of_prefix (trimEnd_isPrefix _) (trimStart_cons_of_not_blank cs hblank)

/-- A text that does not start with a blank keeps its first character. -/
lemma head?_trim_cons {c : Char} (h : isBlank c = false) (cs : List Char) :
    (trim (c :: cs)).head? = some c := by
  rw [trim, trimStart_cons_of_not_blank cs h]
  rcases List.prefix_cons_iff.1 (trimEnd_isPrefix (c :: cs)) with hnil | ⟨front, hfront, -⟩
  · have hblank : isBlank c = true := List.rdropWhile_eq_nil_iff.1 hnil c List.mem_cons_self
    exact absurd hblank (by simp [h])
  · rw [hfront]
    rfl

lemma trimStart_trim (cs : List Char) : trimStart (trim cs) = trim cs :=
  trimStart_eq_self_of_prefix (trimEnd_isPrefix _) (trimStart_trimStart cs)

lemma trim_trim (cs : List Char) : trim (trim cs) = trim cs := by
  calc trim (trim cs) = trimEnd (trimStart (trim cs)) := rfl
    _ = trimEnd (trimEnd (trimStart cs)) := by rw [trimStart_trim, trim]
    _ = trim cs := trimEnd_trimEnd _

/-- Blanks around a text are all that is cut off, if the text neither starts nor ends with one. -/
lemma trim_between {before after : List Char} {c d : Char}
    (hbefore : ∀ e ∈ before, isBlank e = true) (hafter : ∀ e ∈ after, isBlank e = true)
    (hfirst : cs.head? = some c) (hc : isBlank c = false) (hlast : cs.getLast? = some d)
    (hd : isBlank d = false) : trim (before ++ cs ++ after) = cs := by
  obtain ⟨tail, rfl⟩ := List.head?_eq_some_iff.1 hfirst
  have hstart : trimStart (before ++ (c :: tail) ++ after) = c :: tail ++ after := by
    rw [List.append_assoc, trimStart, List.dropWhile_append_of_pos hbefore]
    exact trimStart_cons_of_not_blank _ hc
  have hend : trimEnd (c :: tail ++ after) = trimEnd (c :: tail) := by
    have hall : ∀ e ∈ after.reverse, isBlank e = true := fun e he => hafter e (by simpa using he)
    rw [trimEnd, List.reverse_append, List.dropWhile_append_of_pos hall, trimEnd]
  rw [trim, hstart, hend, trimEnd_eq_self hlast hd]

lemma trim_of_not_blank (h : ∀ c ∈ cs, isBlank c = false) : trim cs = cs := by
  rcases List.eq_nil_or_concat' cs with rfl | ⟨front, d, rfl⟩
  · rfl
  · obtain ⟨c, rest, hcons⟩ := List.exists_cons_of_ne_nil (List.append_ne_nil_of_right_ne_nil front
      (List.cons_ne_nil d []))
    have htrim := @trim_between (front ++ [d]) [] [] c d (by simp) (by simp) (by simp [hcons])
      (h c (by simp [hcons])) List.getLast?_concat (h d (by simp))
    simpa using htrim

lemma trimmed_trimmed (s : String) : trimmed (trimmed s) = trimmed s := by
  rw [trimmed, toList_trimmed, trim_trim, trimmed]

end Admission.Text
