/-
# Sources without actions

A source in which no action is opened is one piece of text.  It compiles, and the template gives
the source itself for every request (`compile_of_plain`).
-/
import Admission.Template
import Mathlib.Tactic.Common

namespace Admission.Template

/-- No action is opened anywhere in the text. -/
def Plain (cs : List Char) : Prop :=
  ¬ ['{', '{'] <:+: cs

instance (cs : List Char) : Decidable (Plain cs) :=
  inferInstanceAs (Decidable (¬ _))

lemma Plain.tail {c : Char} {cs : List Char} (h : Plain (c :: cs)) : Plain cs :=
  fun hopen => h (hopen.trans (List.suffix_cons c cs).isInfix)

lemma Plain.not_opens {c d : Char} {cs : List Char} (h : Plain (c :: d :: cs)) :
    ¬ (c = '{' ∧ d = '{') := by
  rintro ⟨rfl, rfl⟩
  exact h ⟨[], cs, rfl⟩

/-- A plain text is not cut, wherever it starts. -/
lemma cutText_of_plain {cs : List Char} (h : Plain cs) (offset : Nat) :
    cutText offset cs = .ok ⟨cs, []⟩ := by
  induction cs generalizing offset with
  | nil => rw [cutText]
  | cons c cs ih =>
    cases cs with
    | nil => rw [cutText]
    | cons d cs =>
      rw [cutText, if_neg h.not_opens, ih h.tail]
      rfl

/-- The text of a body that copies one text, or nothing if the text is empty. -/
lemma constant?_of_textPieces (cs : List Char) :
    ∃ body, Body.ofPieces (textPieces cs) = .ok body ∧
      body.constant? = some (String.ofList cs) := by
  cases cs with
  | nil => exact ⟨.done, rfl, rfl⟩
  | cons c cs =>
    refine ⟨.text (String.ofList (c :: cs)) .done, rfl, ?_⟩
    simp [Body.constant?]

/-- A plain source compiles to a template that is the source for every request. -/
lemma compile_of_plain {source : String} (h : Plain source.toList) :
    ∃ t, compile source = .ok t ∧ t.constant = some source := by
  obtain ⟨body, hbody, hconstant⟩ := constant?_of_textPieces source.toList
  refine ⟨⟨source, body⟩, ?_, ?_⟩
  · have hpieces : Piece.ofSource source = .ok (textPieces source.toList) := by
      rw [Piece.ofSource, cutText_of_plain h]
      rfl
    rw [compile, hpieces]
    dsimp only
    rw [hbody]
    rfl
  · rw [constant, hconstant, String.ofList_toList]

end Admission.Template
