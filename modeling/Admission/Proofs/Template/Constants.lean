/-
# Templates that are the same for every request

A template is constant if its body only copies texts.  A body is derived from the pieces of the
source without the comments, and every other action leaves something in it that does not copy
(`Derives.constant?_eq_some_iff`).  So a template is constant exactly if all actions of its source
are comments, and then it is the texts that these leave between them
(`constant_iff_only_comments`).
-/
import Admission.Proofs.Template.Composition
import Admission.Proofs.Template.Faults

namespace Admission.Template

open Text

/-- What a piece copies. -/
def Piece.copied : Piece → List Char
  | .text cs => cs
  | .action _ => []

/-! ## Constant bodies -/

section bodies

variable {dot : Kind} {pieces items : List Piece} {b : Body} {text : String}

/-- The body of a list is constant if there is no action in the list. -/
lemma Derives.constant?_eq_some_iff (h : Derives dot items b) :
    b.constant? = some text ↔
      (∀ body, .action body ∉ items) ∧ text = String.ofList (items.flatMap Piece.copied) := by
  induction h generalizing text with
  | done => simp [Body.constant?, eq_comm]
  | @text _ cs items rest _ ih =>
    have hitems : (∀ body, Piece.action body ∉ Piece.text cs :: items) ↔
        ∀ body, .action body ∉ items := by
      simp
    rw [Body.constant?, Option.map_eq_some_iff, hitems, List.flatMap_cons, Piece.copied,
      String.ofList_append]
    constructor
    · rintro ⟨after, hafter, rfl⟩
      obtain ⟨hactions, rfl⟩ := ih.1 hafter
      exact ⟨hactions, rfl⟩
    · rintro ⟨hactions, rfl⟩
      exact ⟨_, ih.2 ⟨hactions, rfl⟩, rfl⟩
  | print => exact iff_of_false (by simp [Body.constant?]) fun h => h.1 _ List.mem_cons_self
  | block => exact iff_of_false (by simp [Body.constant?]) fun h => h.1 _ List.mem_cons_self
  | blockElse => exact iff_of_false (by simp [Body.constant?]) fun h => h.1 _ List.mem_cons_self

lemma action_mem_uncommented_iff {body : List Char} :
    .action body ∈ uncommented pieces ↔ .action body ∈ pieces ∧ ¬ Comment body := by
  rw [uncommented, List.mem_filter, decide_eq_true_iff]
  rfl

/-- Comments copy nothing. -/
lemma flatMap_copied_uncommented (pieces : List Piece) :
    (uncommented pieces).flatMap Piece.copied = pieces.flatMap Piece.copied := by
  induction pieces with
  | nil => rfl
  | cons p pieces ih =>
    by_cases hp : p.IsComment
    · have hcopied : p.copied = [] := by
        cases p with
        | text cs => exact absurd hp id
        | action body => rfl
      rw [uncommented_cons_of_isComment hp, List.flatMap_cons, hcopied, List.nil_append, ih]
    · rw [uncommented_cons_of_not hp, List.flatMap_cons, List.flatMap_cons, ih]

/-- Pieces make a constant body exactly if all actions among them are comments. -/
lemma constant?_eq_some_iff_of_ofPieces (h : Body.ofPieces pieces = .ok b) :
    b.constant? = some text ↔
      (∀ body, .action body ∈ pieces → Comment body) ∧
        text = String.ofList (pieces.flatMap Piece.copied) := by
  rw [(derives_of_ofPieces h).constant?_eq_some_iff, flatMap_copied_uncommented]
  simp only [action_mem_uncommented_iff, not_and, not_not]

end bodies

/-! ## Actions of a source -/

lemma action_notMem_textPieces (body cs : List Char) : .action body ∉ textPieces cs := by
  rw [textPieces]
  split <;> simp

lemma action_mem_itemisedFrom_iff {body : List Char} (previous : Option (List Char))
    (text : List Char) (actions : List (List Char × List Char)) :
    .action body ∈ itemisedFrom previous text actions ↔
      ∃ a ∈ actions, body = trim (withoutMarks a.1) := by
  induction actions generalizing previous text with
  | nil => simp [itemisedFrom, action_notMem_textPieces]
  | cons a actions ih =>
    obtain ⟨inside, after⟩ := a
    simp [itemisedFrom, action_notMem_textPieces, ih]

lemma forall_action_itemised_iff {P : List Char → Prop} (cuts : Cuts) :
    (∀ body, .action body ∈ cuts.itemised → P body) ↔
      ∀ a ∈ cuts.actions, P (trim (withoutMarks a.1)) := by
  simp only [Cuts.itemised, action_mem_itemisedFrom_iff]
  constructor
  · intro h a ha
    exact h _ ⟨a, ha, rfl⟩
  · rintro h body ⟨a, ha, rfl⟩
    exact h a ha

/-- **Constant templates are those with comments only.**  If a source compiles, it has been cut at
its leftmost braces, and the template is constant exactly if each action in it is a comment.  Its
constant text is then what the source says besides the actions, without the blanks that these take
away, and rendering the body gives that very text for every request; so the shortcut for constant
templates is no more than that.  A source in which no action is opened compiles, and the template is
the source itself. -/
theorem constant_iff_only_comments (source : String) :
    (∀ t, compile source = .ok t → ∃ cuts : Cuts, cuts.Leftmost ∧ cuts.source = source.toList ∧
      (t.constant.isSome = true ↔
        ∀ action ∈ cuts.actions, Comment (trim (withoutMarks action.1))) ∧
      (∀ text, t.constant = some text →
        text = String.ofList (cuts.itemised.flatMap Piece.copied) ∧
          ∀ r, t.body.render (.request r) = .ok text ∧ t.execute r = .ok text) ∧
      ∀ r, t.execute r = t.body.render (.request r)) ∧
    (¬ ['{', '{'] <:+: source.toList → ∃ t, compile source = .ok t ∧ t.constant = some source) := by
  refine ⟨fun t ht => ?_, compile_of_plain⟩
  obtain ⟨cuts, hcuts, hbody⟩ := exists_cuts_of_compile ht
  obtain ⟨hsource, hleftmost⟩ := cutText_eq_ok_iff.1 hcuts
  have hconstant (text : String) : t.constant = some text ↔
      (∀ action ∈ cuts.actions, Comment (trim (withoutMarks action.1))) ∧
        text = String.ofList (cuts.itemised.flatMap Piece.copied) := by
    rw [constant, constant?_eq_some_iff_of_ofPieces hbody, cuts.pieces_eq,
      forall_action_itemised_iff]
  refine ⟨cuts, hleftmost, hsource, ?_, fun text htext => ⟨((hconstant text).1 htext).2, ?_⟩,
    execute_eq_render t⟩
  · simp only [Option.isSome_iff_exists, hconstant, exists_and_left, exists_eq, and_true]
  · intro r
    have hrender : t.body.render (.request r) = .ok text := Body.render_of_constant? htext _
    exact ⟨hrender, (execute_eq_render t r).trans hrender⟩

/-- A comment that takes away the blanks on one side, and one that is written with a single star. -/
theorem constant_between_comments :
    let source := "a \x7b\x7b- /* - */\x7d\x7d b\x7b\x7b/*/\x7d\x7d\x7b"
    ∃ t, compile source = .ok t ∧ t.constant = some "a b\x7b" ∧
      t.body.render (.request (.make "GET" "/")) = .ok "a b\x7b" := by
  intro source
  have hcompile : compile source = .ok ⟨source, .text "a" (.text " b" (.text "\x7b" .done))⟩ := by
    decide +kernel
  obtain ⟨cuts, -, -, -, htext, -⟩ := (constant_iff_only_comments source).1 _ hcompile
  have hconstant := htext "a b\x7b" (by decide +kernel)
  exact ⟨_, hcompile, by decide +kernel, (hconstant.2 _).1⟩

end Admission.Template
