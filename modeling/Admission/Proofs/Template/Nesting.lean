/-
# Pieces that are read inside others

The reader looks at the innermost list and at the block around it and never further out.  So pieces
that can be read on their own are read the same wherever the current value is the request: behind
other pieces, and in a branch of a block that is still open (`foldlM_step_of_ofPieces`).  What they
are read as stands behind what was there before.

Texts are read whatever stands around them, so they can be taken off the ends of pieces
(`exists_of_ofPieces_textPieces_append`, `exists_of_ofPieces_append_textPieces`).
-/
import Admission.Proofs.Template.Soundness

namespace Admission.Template

/-! ## A reading inside another one -/

/-- Open blocks with something in front of the list that the outermost of them is in. -/
def behind (before : Body) : List OpenBlock → List OpenBlock
  | [] => []
  | [b] => [{ b with before := before ++ b.before }]
  | b :: c :: blocks => b :: behind before (c :: blocks)

/-- What has been read of the pieces of `r`, when reading them has started in `base`. -/
def Reading.within (base r : Reading) : Reading :=
  match r.blocks with
  | [] => ⟨r.dot, base.body ++ r.body, base.blocks⟩
  | b :: blocks => ⟨r.dot, r.body, behind base.body (b :: blocks) ++ base.blocks⟩

namespace Reading

variable {base r t : Reading}

lemma within_of_nil (h : r.blocks = []) :
    base.within r = ⟨r.dot, base.body ++ r.body, base.blocks⟩ := by
  rw [within, h]

lemma within_of_cons {b : OpenBlock} {blocks : List OpenBlock} (h : r.blocks = b :: blocks) :
    base.within r = ⟨r.dot, r.body, behind base.body (b :: blocks) ++ base.blocks⟩ := by
  rw [within, h]

lemma within_start (h : base.dot = .request) : base.within .start = base := by
  rw [within_of_nil rfl, start, Body.append_done, ← h]

@[simp] lemma dot_within : (base.within r).dot = r.dot := by
  rw [within]
  split <;> rfl

lemma within_add (base r : Reading) (b : Body) :
    (base.within r).add b = base.within (r.add b) := by
  cases h : r.blocks with
  | nil =>
    rw [within_of_nil h, within_of_nil (r := r.add b) h, add, add, Body.append_assoc]
  | cons c blocks =>
    rw [within_of_cons h, within_of_cons (r := r.add b) h]
    rfl

/-- No block is open outside, or the piece can be followed without looking there. -/
def Inside (base : Reading) (outcome : Except Error Reading) : Prop :=
  base.blocks = [] ∨ ∃ t, outcome = .ok t

/-- An instruction does inside what it does on its own. -/
lemma follow_within {i : Instruction} (h : base.Inside (r.follow i)) :
    (base.within r).follow i = (r.follow i).map base.within := by
  cases i with
  | comment => rfl
  | close =>
    rw [follow, follow]
    cases hblocks : r.blocks with
    | nil =>
      -- there is nothing to close, here or outside
      rw [within_of_nil hblocks]
      rcases h with hbase | ⟨t, ht⟩
      · simp [hbase, Except.map]
      · exact absurd ht (by simp [follow, hblocks])
    | cons b blocks =>
      rw [within_of_cons hblocks]
      cases blocks with
      | nil => simp [behind, within, Except.map, Body.append_assoc, OpenBlock.closed]
      | cons c blocks => simp [behind, within, Except.map]
  | otherwise =>
    rw [follow, follow]
    cases hblocks : r.blocks with
    | nil =>
      rw [within_of_nil hblocks]
      rcases h with hbase | ⟨t, ht⟩
      · simp [hbase, Except.map]
      · exact absurd ht (by simp [follow, hblocks])
    | cons b blocks =>
      rw [within_of_cons hblocks]
      cases blocks with
      | nil => cases hfirst : b.first <;> simp [behind, within, Except.map, hfirst]
      | cons c blocks => cases hfirst : b.first <;> simp [behind, within, Except.map, hfirst]
  | opens block subject =>
    rw [follow, follow, dot_within]
    cases Pipeline.read r.dot subject with
    | error e => rfl
    | ok value =>
      cases hblocks : r.blocks with
      | nil => simp [within, hblocks, behind, Except.map]
      | cons b blocks => simp [within, hblocks, behind, Except.map]
  | prints value =>
    rw [follow, follow, dot_within]
    cases Pipeline.read r.dot value with
    | error e => rfl
    | ok value =>
      dsimp only
      split
      · rw [within_add]
        rfl
      · rfl

lemma step_within {p : Piece} (h : base.Inside (r.step p)) :
    (base.within r).step p = (r.step p).map base.within := by
  cases p with
  | text cs =>
    rw [step, step, within_add]
    rfl
  | action body => exact follow_within h

/-- Pieces are read inside as they are read on their own. -/
lemma foldlM_step_within {pieces : List Piece} (h : base.Inside (pieces.foldlM step r)) :
    pieces.foldlM step (base.within r) = (pieces.foldlM step r).map base.within := by
  induction pieces generalizing r with
  | nil => rfl
  | cons p pieces ih =>
    rw [List.foldlM_cons] at h ⊢
    rw [List.foldlM_cons]
    have hstep : base.Inside (r.step p) := h.imp_right fun ⟨t, ht⟩ =>
      (bind_eq_ok_iff.1 ht).imp fun _ hfirst => hfirst.1
    rw [step_within hstep]
    cases hfirst : r.step p with
    | error e => rfl
    | ok t =>
      rw [hfirst] at h
      exact ih h

end Reading

/-! ## Bodies -/

open Reading

lemma ofPieces_eq_ok_iff {pieces : List Piece} {b : Body} :
    Body.ofPieces pieces = .ok b ↔ pieces.foldlM step start = .ok ⟨.request, b, []⟩ := by
  rw [Body.ofPieces]
  cases hread : pieces.foldlM step start with
  | error e => simp
  | ok t =>
    obtain ⟨dot, body, blocks⟩ := t
    simp only [finish]
    cases blocks with
    | nil =>
      -- out of all blocks the current value is the request
      have hdot : dot = .request :=
        (foldlM_keeps (fun _ _ _ _ => step_wellKinded) hread wellKinded_start).2
      simp [hdot]
    | cons b blocks => simp

/-- **Pieces are read the same everywhere.**  Where the current value is the request, pieces that
make a body on their own add this body to what has been read. -/
lemma foldlM_step_of_ofPieces {pieces : List Piece} {b : Body}
    (h : Body.ofPieces pieces = .ok b) {base : Reading} (hdot : base.dot = .request) :
    pieces.foldlM step base = .ok (base.add b) := by
  rw [ofPieces_eq_ok_iff] at h
  calc pieces.foldlM step base
    _ = pieces.foldlM step (base.within start) := by rw [within_start hdot]
    _ = (pieces.foldlM step start).map base.within := foldlM_step_within (.inr ⟨_, h⟩)
    _ = .ok (base.add b) := by
      rw [h, add, hdot]
      rfl

lemma ofPieces_append {pieces more : List Piece} {a b : Body} (ha : Body.ofPieces pieces = .ok a)
    (hb : Body.ofPieces more = .ok b) : Body.ofPieces (pieces ++ more) = .ok (a ++ b) := by
  rw [ofPieces_eq_ok_iff] at ha ⊢
  rw [List.foldlM_append, ha]
  exact foldlM_step_of_ofPieces hb rfl

/-! ## Texts at the ends -/

/-- The body that copies a text; an empty text leaves nothing. -/
def textBody (cs : List Char) : Body :=
  if cs.isEmpty then .done else .text (String.ofList cs) .done

lemma foldlM_step_textPieces (r : Reading) (cs : List Char) :
    (textPieces cs).foldlM step r = .ok (r.add (textBody cs)) := by
  cases cs with
  | nil =>
    rw [add, textBody, List.isEmpty_nil, if_pos rfl, Body.append_done]
    rfl
  | cons c cs => rfl

lemma ofPieces_textPieces (cs : List Char) : Body.ofPieces (textPieces cs) = .ok (textBody cs) := by
  rw [ofPieces_eq_ok_iff, foldlM_step_textPieces]
  rfl

/-- Pieces behind a text can be read without it. -/
lemma exists_of_ofPieces_textPieces_append {cs : List Char} {pieces : List Piece} {b : Body}
    (h : Body.ofPieces (textPieces cs ++ pieces) = .ok b) :
    ∃ rest, Body.ofPieces pieces = .ok rest ∧ b = textBody cs ++ rest := by
  rw [ofPieces_eq_ok_iff, List.foldlM_append, foldlM_step_textPieces] at h
  have hbase : start.add (textBody cs) = (start.add (textBody cs)).within start :=
    (within_start rfl).symm
  have hwithin : (pieces.foldlM step start).map (start.add (textBody cs)).within =
      .ok ⟨.request, b, []⟩ := by
    rw [← foldlM_step_within (.inl rfl), ← hbase]
    exact h
  obtain ⟨t, ht, hwhole⟩ := map_eq_ok_iff.1 hwithin
  obtain ⟨dot, body, blocks⟩ := t
  cases blocks with
  | nil =>
    rw [within_of_nil rfl] at hwhole
    obtain ⟨rfl, rfl, -⟩ := Reading.mk.inj hwhole
    exact ⟨body, ofPieces_eq_ok_iff.2 ht, rfl⟩
  | cons c blocks =>
    -- a block that is open stays open behind the text
    rw [within_of_cons rfl] at hwhole
    have hblocks := (Reading.mk.inj hwhole).2.2
    cases blocks <;> exact absurd hblocks (by simp [behind])

/-- Pieces before a text can be read without it. -/
lemma exists_of_ofPieces_append_textPieces {cs : List Char} {pieces : List Piece} {b : Body}
    (h : Body.ofPieces (pieces ++ textPieces cs) = .ok b) :
    ∃ front, Body.ofPieces pieces = .ok front ∧ b = front ++ textBody cs := by
  rw [ofPieces_eq_ok_iff, List.foldlM_append, bind_eq_ok_iff] at h
  obtain ⟨⟨dot, body, blocks⟩, hread, htext⟩ := h
  rw [foldlM_step_textPieces] at htext
  obtain ⟨rfl, rfl, rfl⟩ := Reading.mk.inj (Except.ok.inj htext)
  exact ⟨body, ofPieces_eq_ok_iff.2 hread, rfl⟩

end Admission.Template
