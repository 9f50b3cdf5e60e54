/-
# How pipelines are written

A pipeline is a dot, a text in quotes, or names with a dot before each of them, with blanks around
it.  Whatever it is, it cannot be mistaken for the end of an action: its last character is no brace,
and a dash at its end has no blank before it (`not_ends_of_read`).
-/
import Admission.Proofs.Template.Pipelines
import Admission.Proofs.Text.Letters

namespace Admission.Template

open Text

variable {dot kind : Kind} {source : List Char} {p : Pipeline}

/-! ## Characters of pipelines -/

lemma FieldName.visible {name : List Char} (h : FieldName name) :
    ∀ c ∈ name, isBlank c = false ∧ c ≠ '}' := by
  intro c hc
  rcases h.2 c hc with halphanum | rfl | rfl
  · refine ⟨not_isBlank_of_isAlphanum halphanum, ?_⟩
    rintro rfl
    exact absurd halphanum (by decide)
  · decide
  · decide

/-- The ways to write a pipeline. -/
lemma forms_of_read (h : Pipeline.read dot source = .ok (p, kind)) :
    (∃ names, trim source = '.' :: names ∧ ∀ c ∈ names, isBlank c = false ∧ c ≠ '}') ∨
      ∃ inside, trim source = '"' :: (inside ++ ['"']) := by
  have hwritten := Pipeline.read_eq_ok_iff.1 h
  generalize trim source = text at hwritten
  cases hwritten with
  | dot => exact .inl ⟨[], rfl, by simp⟩
  | @literal inside _ _ => exact .inr ⟨inside, rfl⟩
  | @path names _ hne h =>
    obtain ⟨name, more, rfl⟩ := List.exists_cons_of_ne_nil hne
    refine .inl ⟨name ++ separated '.' more, rfl, fun c hc => ?_⟩
    have hmem : c ∈ separated '.' (name :: more) := List.mem_cons_of_mem _ hc
    obtain ⟨part, hpart, hc⟩ := List.mem_flatMap.1 hmem
    rcases List.mem_cons.1 hc with rfl | hc
    · decide
    · exact (h.fieldName part hpart).visible c hc

/-! ## Ends of pipelines -/

lemma read_trim (dot : Kind) (source : List Char) :
    Pipeline.read dot (trim source) = Pipeline.read dot source := by
  rw [Pipeline.read, Pipeline.read, trim_trim]

lemma trim_ne_nil_of_read (h : Pipeline.read dot source = .ok (p, kind)) : trim source ≠ [] := by
  rcases forms_of_read h with ⟨names, hnames, -⟩ | ⟨inside, hinside⟩
  · rw [hnames]
    exact List.cons_ne_nil _ _
  · rw [hinside]
    exact List.cons_ne_nil _ _

/-- What follows the blanks at the start ends as the whole text does. -/
lemma trim_of_getLast? {c : Char} (hlast : source.getLast? = some c) (hc : isBlank c = false)
    (hne : trim source ≠ []) : trim source <:+ source ∧ (trim source).getLast? = some c := by
  have hsuffix : trim source <:+ source := by
    rw [← trimStart_trimEnd, trimEnd_eq_self hlast hc]
    exact List.dropWhile_suffix isBlank
  refine ⟨hsuffix, ?_⟩
  obtain ⟨front, hfront⟩ := hsuffix
  rw [← hfront, List.getLast?_append_of_ne_nil _ hne] at hlast
  exact hlast

/-- **No pipeline can be mistaken for the end of an action.**  It does not end in a brace, and not
in a blank and a dash, whatever stands before it. -/
lemma not_ends_of_read (h : Pipeline.read dot source = .ok (p, kind)) :
    source.getLast? ≠ some '}' ∧
      ∀ front d, isBlank d = true → ¬ [d, '-'] <:+ front ++ source := by
  have hne := trim_ne_nil_of_read h
  constructor
  · intro hlast
    obtain ⟨-, hend⟩ := trim_of_getLast? hlast (by decide) hne
    rcases forms_of_read h with ⟨names, hnames, hchars⟩ | ⟨inside, hinside⟩
    · rw [hnames] at hend
      rcases List.mem_cons.1 (List.mem_of_getLast? hend) with hdot | hmem
      · exact absurd hdot (by decide)
      · exact absurd rfl (hchars _ hmem).2
    · rw [hinside, ← List.cons_append, List.getLast?_concat] at hend
      exact absurd (Option.some.inj hend) (by decide)
  · intro front d hd hmarker
    have hsource : source ≠ [] := by
      rintro rfl
      exact hne rfl
    have hlast : source.getLast? = some '-' := by
      obtain ⟨start, hstart⟩ := hmarker
      rw [← List.getLast?_append_of_ne_nil front hsource, ← hstart]
      simp
    obtain ⟨hsuffix, hend⟩ := trim_of_getLast? hlast (by decide) hne
    rcases forms_of_read h with ⟨names, hnames, hchars⟩ | ⟨inside, hinside⟩
    · -- a path has a dot at the start, so the blank would stand among its names
      rw [hnames] at hsuffix hend
      cases names with
      | nil => exact absurd (Option.some.inj hend) (by decide)
      | cons c names =>
        have hwithin : [d, '-'] <:+ '.' :: c :: names :=
          List.suffix_of_suffix_length_le hmarker
            (hsuffix.trans (List.suffix_append front source)) (by simp)
        rcases List.mem_cons.1 (hwithin.subset List.mem_cons_self) with rfl | hmem
        · exact absurd hd (by decide)
        · exact absurd hd (by simp [(hchars d hmem).1])
    · rw [hinside, ← List.cons_append, List.getLast?_concat] at hend
      exact absurd (Option.some.inj hend) (by decide)

end Admission.Template
