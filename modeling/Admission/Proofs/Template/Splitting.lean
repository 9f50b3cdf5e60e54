/-
# What the pieces of a source are

A source is either cut at its leftmost braces, or one of its actions has no end.  In the first case
the pieces are the texts and actions of the cuts, in order.  An action can be marked at either end,
by a dash with a blank on its inner side; it loses the marks, and takes away the blanks of the text
on the side of a mark (`splits_at_leftmost_braces`).

The pieces are made from left to right, one mark after another, with a flag for the text that comes
next.  Here every text is described by the two actions beside it instead, and every action by the
whole of its inside.  The two agree because taking off the first mark leaves the second one as it
was, even if both share their blank (`markedAfter_tail_iff`).
-/
import Admission.Proofs.Template.Cutting

namespace Admission.Template

open Text

/-! ## Marks of actions -/

/-- The inside of an action starts with a dash and a blank. -/
def MarkedBefore (inside : List Char) : Prop :=
  ∃ d, isBlank d = true ∧ ['-', d] <+: inside

/-- The inside of an action ends with a blank and a dash. -/
def MarkedAfter (inside : List Char) : Prop :=
  ∃ d, isBlank d = true ∧ [d, '-'] <:+ inside

lemma markedBefore_reverse_iff {cs : List Char} : MarkedBefore cs.reverse ↔ MarkedAfter cs :=
  exists_congr fun d => and_congr_right fun _ => @List.reverse_prefix _ [d, '-'] cs

lemma afterMarker?_eq_some_iff {cs rest : List Char} :
    afterMarker? cs = some rest ↔ MarkedBefore cs ∧ rest = cs.tail := by
  rcases cs with _ | ⟨c, _ | ⟨d, cs⟩⟩
  · simp [afterMarker?, MarkedBefore]
  · simp [afterMarker?, MarkedBefore, List.cons_prefix_cons]
  · have hmarked : MarkedBefore (c :: d :: cs) ↔ c = '-' ∧ isBlank d = true := by
      simp [MarkedBefore, List.cons_prefix_cons, and_comm, eq_comm (a := '-')]
    rw [hmarked, afterMarker?]
    by_cases h : c = '-' ∧ isBlank d = true
    · simp [h, eq_comm]
    · simp [h]

lemma afterMarker?_eq_none_iff {cs : List Char} : afterMarker? cs = none ↔ ¬ MarkedBefore cs := by
  simp [Option.eq_none_iff_forall_ne_some, afterMarker?_eq_some_iff]

lemma isSome_afterMarker?_iff {cs : List Char} :
    (afterMarker? cs).isSome = true ↔ MarkedBefore cs := by
  rw [Option.isSome_iff_ne_none, ne_eq, afterMarker?_eq_none_iff, not_not]

instance (inside : List Char) : Decidable (MarkedBefore inside) :=
  decidable_of_iff _ isSome_afterMarker?_iff

instance (inside : List Char) : Decidable (MarkedAfter inside) :=
  decidable_of_iff _ markedBefore_reverse_iff

/-- The first mark of an action can be taken off without touching the second one. -/
lemma markedAfter_tail_iff {inside : List Char} (h : MarkedBefore inside) :
    MarkedAfter inside.tail ↔ MarkedAfter inside := by
  obtain ⟨d, -, rest, rfl⟩ := h
  constructor
  · rintro ⟨e, he, hmark⟩
    exact ⟨e, he, hmark.trans (List.suffix_cons _ _)⟩
  · rintro ⟨e, he, hmark⟩
    rcases List.suffix_cons_iff.1 hmark with hwhole | hmark
    · -- the dash would be the blank
      obtain ⟨rfl, -⟩ := List.cons.inj hwhole
      exact absurd he (by decide)
    · exact ⟨e, he, hmark⟩

/-- The inside of an action without its marks. -/
def withoutMarks (inside : List Char) : List Char :=
  let front := if MarkedBefore inside then inside.tail else inside
  if MarkedAfter inside then front.dropLast else front

lemma afterMarker?_eq (cs : List Char) :
    afterMarker? cs = if MarkedBefore cs then some cs.tail else none := by
  split
  · rename_i h
    exact afterMarker?_eq_some_iff.2 ⟨h, rfl⟩
  · rename_i h
    rwa [← isSome_afterMarker?_iff, Option.not_isSome_iff_eq_none] at h

/-- The mark at the end of a text is that at the start of the reversed text. -/
lemma dropLast_of_afterMarker? (cs : List Char) :
    ((afterMarker? cs.reverse).map List.reverse).getD cs =
      if MarkedAfter cs then cs.dropLast else cs := by
  rw [afterMarker?_eq, List.tail_reverse]
  simp only [markedBefore_reverse_iff]
  split
  · exact List.reverse_reverse _
  · rfl

lemma ofInside_eq (inside : List Char) :
    Action.ofInside inside =
      ⟨decide (MarkedBefore inside), decide (MarkedAfter inside), trim (withoutMarks inside)⟩ := by
  let front := if MarkedBefore inside then inside.tail else inside
  have hfront : (afterMarker? inside).getD inside = front := by
    rw [afterMarker?_eq, apply_ite (Option.getD · inside)]
    rfl
  have hafter : MarkedAfter front ↔ MarkedAfter inside := by
    dsimp only [front]
    split
    · rename_i h
      exact markedAfter_tail_iff h
    · rfl
  have htrimsBefore : (afterMarker? inside).isSome = decide (MarkedBefore inside) :=
    Bool.eq_iff_iff.2 (isSome_afterMarker?_iff.trans decide_eq_true_iff.symm)
  have htrimsAfter : (afterMarker? front.reverse).isSome = decide (MarkedAfter inside) := by
    rw [Bool.eq_iff_iff, isSome_afterMarker?_iff, markedBefore_reverse_iff, hafter,
      decide_eq_true_iff]
  have hbody :
      ((afterMarker? front.reverse).map List.reverse).getD front = withoutMarks inside := by
    rw [dropLast_of_afterMarker?, withoutMarks]
    simp only [hafter]
    rfl
  rw [Action.ofInside, hfront, htrimsBefore, htrimsAfter, hbody]

/-! ## Texts between actions -/

/-- What is left of the text between two actions, or before the first or behind the last one. -/
def between (previous next : Option (List Char)) (text : List Char) : List Char :=
  let front := if ∃ inside ∈ previous, MarkedAfter inside then trimStart text else text
  if ∃ inside ∈ next, MarkedBefore inside then trimEnd front else front

/-- The pieces of a text and of what follows it, behind the action `previous`. -/
def itemisedFrom (previous : Option (List Char)) (text : List Char) :
    List (List Char × List Char) → List Piece
  | [] => textPieces (between previous none text)
  | (inside, after) :: more =>
    textPieces (between previous (some inside) text) ++
      .action (trim (withoutMarks inside)) :: itemisedFrom (some inside) after more

/-- Every text without the blanks that the actions beside it take away, unless nothing is left of
it, and every action without its marks and outer blanks. -/
def Cuts.itemised (cuts : Cuts) : List Piece :=
  itemisedFrom none cuts.head cuts.actions

lemma piecesFrom_eq (previous : Option (List Char)) (text : List Char)
    (actions : List (List Char × List Char)) :
    piecesFrom (decide (∃ inside ∈ previous, MarkedAfter inside)) text actions =
      itemisedFrom previous text actions := by
  induction actions generalizing previous text with
  | nil => simp [piecesFrom, itemisedFrom, between]
  | cons action more ih =>
    obtain ⟨inside, after⟩ := action
    have hmore := ih (some inside) after
    simp only [Option.mem_some_iff, exists_eq_left'] at hmore
    simp only [piecesFrom, ofInside_eq, itemisedFrom, between, decide_eq_true_eq, hmore,
      Option.mem_some_iff, exists_eq_left']

lemma Cuts.pieces_eq (cuts : Cuts) : cuts.pieces = cuts.itemised :=
  piecesFrom_eq none cuts.head cuts.actions

/-! ## Splitting a source -/

/-- **A source is split at its leftmost braces.**  It has pieces exactly if it can be written as
texts and actions in which no braces stand earlier than they have to, and then the pieces are those
of these texts and actions.  Otherwise one of its actions, opened behind such texts and actions, is
never closed, and this is the fault that is reported, with the byte at which the action starts;
compiling the source reports it too, whatever else is wrong. -/
theorem splits_at_leftmost_braces (source : String) :
    (∀ pieces, Piece.ofSource source = .ok pieces ↔ ∃ cuts : Cuts, cuts.Leftmost ∧
      cuts.source = source.toList ∧ pieces = cuts.itemised) ∧
    (∀ e, Piece.ofSource source = .error e ↔ ∃ (cuts : Cuts) (rest : List Char), cuts.Opening ∧
      ¬ ['}', '}'] <:+: rest ∧ source.toList = cuts.source ++ '{' :: '{' :: rest ∧
        e = .unclosedAction (byteLength cuts.source)) ∧
    ∀ e, Piece.ofSource source = .error e → compile source = .error e := by
  refine ⟨fun pieces => ?_, fun e => ?_, fun e h => ?_⟩
  · rw [Piece.ofSource, map_eq_ok_iff]
    simp only [cutText_eq_ok_iff, Cuts.pieces_eq, and_assoc]
    grind
  · rw [Piece.ofSource, map_eq_error_iff, cutText_eq_error_iff]
    simp only [Nat.zero_add]
  · rw [compile, h]

/-- An action that is marked twice with one blank, and a source in which an action without an end
stands behind one that closes no block. -/
theorem splits_at_shared_blank_and_open_action :
    Piece.ofSource "a \x7b\x7b- -\x7d\x7d \x7d" = .ok [.text ['a'], .action [], .text ['\x7d']] ∧
      Piece.ofSource "é\x7b\x7bend\x7d\x7d\x7b\x7bif\x7d" = .error (.unclosedAction 9) ∧
        compile "é\x7b\x7bend\x7d\x7d\x7b\x7bif\x7d" = .error (.unclosedAction 9) := by
  let marked : Cuts := ⟨['a', ' '], [(['-', ' ', '-'], [' ', '\x7d'])]⟩
  let behindEnd : Cuts := ⟨['é'], [(['e', 'n', 'd'], [])]⟩
  obtain ⟨-, hfault, hcompile⟩ := splits_at_leftmost_braces "é\x7b\x7bend\x7d\x7d\x7b\x7bif\x7d"
  have hopen : Piece.ofSource "é\x7b\x7bend\x7d\x7d\x7b\x7bif\x7d" = .error (.unclosedAction 9) :=
    (hfault _).2 ⟨behindEnd, ['i', 'f', '\x7d'], by decide, by decide, by decide +kernel,
      by decide +kernel⟩
  refine ⟨?_, hopen, hcompile _ hopen⟩
  exact ((splits_at_leftmost_braces "a \x7b\x7b- -\x7d\x7d \x7d").1 _).2
    ⟨marked, by decide, by decide +kernel, by decide +kernel⟩

end Admission.Template
