/-
# The leftmost fault of a template

A piece can go on from a place in a template or it is at fault there: it closes or splits a block
that does not admit it, its pipeline cannot be read, or its value cannot be printed
(`continues_or_faulty`).  So the reader comes exactly to the places that the grammar describes
(`foldlM_step_eq_ok_iff`).  A source is compiled if the grammar derives its pieces, to the body of
the derivation, and otherwise the fault is that of the first piece that cannot go on, or the
innermost block that has no end (`compile_follows_grammar`).  Comments count nowhere.
-/
import Admission.Proofs.Template.Grammar

namespace Admission.Template

open Text

/-! ## Comments -/

/-- The piece is an action that is a comment. -/
def Piece.IsComment : Piece → Prop
  | .text _ => False
  | .action body => Comment body

instance : DecidablePred Piece.IsComment
  | .text _ => inferInstanceAs (Decidable False)
  | .action body => inferInstanceAs (Decidable (Comment body))

/-- The pieces without the comments. -/
def uncommented (pieces : List Piece) : List Piece :=
  pieces.filter fun p => ¬ p.IsComment

lemma not_isComment_of_mem {pieces : List Piece} {p : Piece} (h : p ∈ uncommented pieces) :
    ¬ p.IsComment := by
  simpa using (List.mem_filter.1 h).2

lemma uncommented_cons_of_isComment {p : Piece} (h : p.IsComment) (pieces : List Piece) :
    uncommented (p :: pieces) = uncommented pieces :=
  List.filter_cons_of_neg (by simpa using h)

lemma uncommented_cons_of_not {p : Piece} (h : ¬ p.IsComment) (pieces : List Piece) :
    uncommented (p :: pieces) = p :: uncommented pieces :=
  List.filter_cons_of_pos (by simpa using h)

lemma step_of_isComment {p : Piece} (h : p.IsComment) (r : Reading) : r.step p = .ok r := by
  cases p with
  | text cs => exact absurd h id
  | action body =>
    rw [Reading.step, ofBody_of_comment h]
    rfl

lemma foldlM_step_uncommented (pieces : List Piece) (r : Reading) :
    (uncommented pieces).foldlM Reading.step r = pieces.foldlM Reading.step r := by
  induction pieces generalizing r with
  | nil => rfl
  | cons p pieces ih =>
    by_cases hp : p.IsComment
    · rw [uncommented_cons_of_isComment hp, foldlM_cons_of_ok (step_of_isComment hp r), ih]
    · rw [uncommented_cons_of_not hp, List.foldlM_cons, List.foldlM_cons]
      exact bind_congr ih

/-! ## Pieces that cannot go on -/

/-- The piece cannot stand at the place, and the fault says why: there is no block to close, or none
that has but one branch, the pipeline of a block or of a value cannot be read, or the value has no
printed form. -/
inductive Reading.Faulty (r : Reading) : Piece → Error → Prop
  | close (h : r.blocks = []) : Faulty r (.action "end".toList) (.unexpected "end")
  | otherwise (h : ∀ b ∈ r.blocks.head?, b.first.isSome = true) :
    Faulty r (.action "else".toList) (.unexpected "else")
  | subject {block : Block} {body subject : List Char} {e : Error}
    (hopens : Opens block body subject) (h : Pipeline.Misread r.dot subject e) :
    Faulty r (.action body) e
  | value {body : List Char} {e : Error} (hprints : Prints body)
    (h : Pipeline.Misread r.dot (trim body) e) : Faulty r (.action body) e
  | unprintable {body : List Char} {p : Pipeline} {kind : Kind}
    (hvalue : p.Written r.dot (trim body) kind) (hkind : ¬ (kind = .text ∨ kind = .flag)) :
    Faulty r (.action body) (.unprintable kind)

section places

variable {items : List Piece} {r s : Reading} {p : Piece} {e : Error}

lemma step_of_faulty (h : r.Faulty p e) : r.step p = .error e := by
  cases h with
  | close h =>
    rw [Reading.step, ofBody_end, Reading.follow]
    simp only [h]
  | otherwise h =>
    rw [Reading.step, ofBody_else, Reading.follow]
    cases hblocks : r.blocks with
    | nil => rfl
    | cons b blocks =>
      obtain ⟨first, hfirst⟩ := Option.isSome_iff_exists.1 (h b (by rw [hblocks]; rfl))
      simp only [hfirst]
  | subject hopens h =>
    rw [← hopens.trim_eq] at h
    rw [Reading.step, ofBody_of_opens hopens, Reading.follow, Pipeline.read_of_misread h]
    rfl
  | value hprints h =>
    rw [Reading.step, ofBody_of_prints hprints, Reading.follow, Pipeline.read_of_misread h]
  | @unprintable body p kind hvalue hkind =>
    have hprintable : kind.isPrintable = false := by
      cases kind <;> simp_all [Kind.isPrintable]
    rw [Reading.step, ofBody_of_prints (prints_of_written hvalue), Reading.follow,
      Pipeline.read_of_written hvalue]
    simp [hprintable]

/-- A place can be left by closing the innermost block. -/
lemma Reached.close {dot : Kind} {body : Body} {b : OpenBlock} {blocks : List OpenBlock}
    (h : Reached items ⟨dot, body, b :: blocks⟩) :
    Reached (items ++ [.action "end".toList]) ⟨b.outer, b.before ++ b.closed body, blocks⟩ := by
  cases h with
  | first hbefore hopens hsubject h =>
    rw [List.append_assoc, List.cons_append]
    exact hbefore.append (.block hopens hsubject h .done)
  | second hbefore h =>
    -- the block goes back to where its first branch was opened
    cases hbefore with
    | first hbefore hopens hsubject hfirst =>
      rw [List.append_assoc, List.append_assoc, List.cons_append, List.cons_append]
      exact hbefore.append (.blockElse hopens hsubject hfirst h .done)

/-- From every place a piece goes on to another one, or it is at fault. -/
lemma continues_or_faulty (hr : Reached items r) (hp : ¬ p.IsComment) :
    (∃ s, r.step p = .ok s ∧ Reached (items ++ [p]) s) ∨ ∃ e, r.Faulty p e := by
  cases p with
  | text cs => exact .inl ⟨_, rfl, hr.append (.text .done)⟩
  | action body =>
    rcases action_cases body with hcomment | rfl | rfl | ⟨block, subject, hopens⟩ | hprints
    · exact absurd hcomment hp
    · -- an end needs an open block
      obtain ⟨dot, body, blocks⟩ := r
      cases blocks with
      | nil => exact .inr ⟨_, .close rfl⟩
      | cons b blocks => exact .inl ⟨_, step_end _ _ _ _, hr.close⟩
    · -- an else needs one that is still in its first branch
      obtain ⟨dot, body, blocks⟩ := r
      rcases blocks with _ | ⟨⟨block, p, prior, outer, _ | first⟩, blocks⟩
      · exact .inr ⟨_, .otherwise (by simp)⟩
      · exact .inl ⟨_, step_else _ _ _ _ _ _ _, .second hr .done⟩
      · exact .inr ⟨_, .otherwise (by simp)⟩
    · -- a block opens if its subject can be read, and its first branch starts empty
      rcases Pipeline.written_or_misread r.dot subject with ⟨p, kind, hsubject⟩ | ⟨e, hmisread⟩
      · exact .inl ⟨_, step_of_opens hopens hsubject, .first hr hopens hsubject .done⟩
      · exact .inr ⟨e, .subject hopens hmisread⟩
    · -- what is left is a value, which has to be printable too
      rcases Pipeline.written_or_misread r.dot (trim body) with
        ⟨p, kind, hvalue⟩ | ⟨e, hmisread⟩
      · by_cases hkind : kind = .text ∨ kind = .flag
        · exact .inl ⟨_, step_of_prints hvalue hkind, hr.append (.print hvalue hkind .done)⟩
        · exact .inr ⟨_, .unprintable hvalue hkind⟩
      · exact .inr ⟨e, .value hprints hmisread⟩

/-- A step leads to the place behind the piece, or it reports the fault. -/
lemma step_outcome (hr : Reached items r) (hp : ¬ p.IsComment) :
    (∀ s, r.step p = .ok s → Reached (items ++ [p]) s) ∧
      ∀ e, r.step p = .error e ↔ r.Faulty p e := by
  obtain ⟨hok, herror⟩ := outcome_iff (fun _ h => h.1) (fun _ => step_of_faulty)
    (continues_or_faulty hr hp)
  exact ⟨fun s h => ((hok s).1 h).2, herror⟩

/-- Reading comes exactly to the places that the grammar describes. -/
lemma foldlM_step_eq_ok_iff (hitems : ∀ p ∈ items, ¬ p.IsComment) :
    items.foldlM Reading.step .start = .ok r ↔ Reached items r := by
  refine ⟨fun h => ?_, foldlM_step_of_reached⟩
  -- from the end, because the last piece goes on from the place that the others lead to
  induction items using List.reverseRecOn generalizing r with
  | nil =>
    obtain rfl := Except.ok.inj h
    exact .top .done
  | append_singleton items p ih =>
    obtain ⟨hitems, hp⟩ := List.forall_mem_append.1 hitems
    rw [List.foldlM_append, bind_eq_ok_iff] at h
    obtain ⟨s, hs, hstep⟩ := h
    rw [List.foldlM_cons, bind_eq_ok_iff] at hstep
    obtain ⟨t, ht, hlast⟩ := hstep
    obtain rfl := Except.ok.inj hlast
    exact (step_outcome (ih hitems hs) (hp p List.mem_cons_self)).1 t ht

/-- Outside of all blocks a list has been read. -/
lemma Reached.derives (h : Reached items r) (hblocks : r.blocks = []) :
    Derives .request items r.body := by
  cases h with
  | top h => exact h
  | first => exact absurd hblocks (by simp)
  | second => exact absurd hblocks (by simp)

end places

/-! ## Compiling -/

/-- The fault is that of the first piece that cannot go on, or all pieces can and the innermost open
block has no end. -/
def LeftmostFault (items : List Piece) (e : Error) : Prop :=
  (∃ before p after r, items = before ++ p :: after ∧ Reached before r ∧ r.Faulty p e) ∨
    ∃ r b blocks, Reached items r ∧ r.blocks = b :: blocks ∧ e = .missingEnd b.block.keyword

lemma finish_eq_error_iff {r : Reading} {e : Error} :
    r.finish = .error e ↔ ∃ b blocks, r.blocks = b :: blocks ∧ e = .missingEnd b.block.keyword := by
  rw [Reading.finish]
  cases r.blocks <;> simp [eq_comm]

lemma ofPieces_eq_error_iff {pieces : List Piece} {e : Error} :
    Body.ofPieces pieces = .error e ↔ LeftmostFault (uncommented pieces) e := by
  have hitems : ∀ p ∈ uncommented pieces, ¬ p.IsComment := fun p => not_isComment_of_mem
  have hreading : Body.ofPieces pieces =
      (uncommented pieces).foldlM Reading.step .start >>= Reading.finish := by
    rw [Body.ofPieces, foldlM_step_uncommented]
    cases pieces.foldlM Reading.step .start <;> rfl
  rw [hreading, bind_eq_error_iff, foldlM_eq_error_iff, LeftmostFault]
  refine or_congr ?_ ?_
  · refine exists_congr fun before => exists_congr fun p => exists_congr fun after =>
      exists_congr fun r => and_congr_right fun hsplit => ?_
    rw [hsplit, List.forall_mem_append, List.forall_mem_cons] at hitems
    rw [foldlM_step_eq_ok_iff hitems.1]
    exact and_congr_right fun hr => (step_outcome hr hitems.2.1).2 e
  · simp only [foldlM_step_eq_ok_iff hitems, finish_eq_error_iff, exists_and_left]

/-- The grammar derives every body that is read. -/
lemma derives_of_ofPieces {pieces : List Piece} {b : Body} (h : Body.ofPieces pieces = .ok b) :
    Derives .request (uncommented pieces) b := by
  rw [ofPieces_eq_ok_iff, ← foldlM_step_uncommented,
    foldlM_step_eq_ok_iff fun p => not_isComment_of_mem] at h
  exact h.derives rfl

/-- **Compiling follows the grammar.**  A source that has been split into pieces is compiled to a
template exactly if the grammar derives the body of the template from the pieces without their
comments.  Otherwise the fault is the leftmost one. -/
theorem compile_follows_grammar {source : String} {pieces : List Piece}
    (h : Piece.ofSource source = .ok pieces) :
    (∀ t, compile source = .ok t ↔
      t.source = source ∧ Derives .request (uncommented pieces) t.body) ∧
    ∀ e, compile source = .error e ↔ LeftmostFault (uncommented pieces) e := by
  have hcompile : compile source = (Body.ofPieces pieces).map (⟨source, ·⟩) := by
    rw [compile, h]
  refine ⟨fun t => ?_, fun e => ?_⟩
  · obtain ⟨written, body⟩ := t
    have hbody (b : Body) : Body.ofPieces pieces = .ok b ↔
        Derives .request (uncommented pieces) b := by
      rw [ofPieces_eq_ok_iff, ← foldlM_step_uncommented,
        foldlM_step_eq_ok_iff fun p => not_isComment_of_mem]
      exact ⟨fun hread => hread.derives rfl, .top⟩
    simp only [hcompile, map_eq_ok_iff, hbody, Template.mk.injEq]
    constructor
    · rintro ⟨b, hb, rfl, rfl⟩
      exact ⟨rfl, hb⟩
    · rintro ⟨rfl, hb⟩
      exact ⟨body, hb, rfl, rfl⟩
  · rw [hcompile, map_eq_error_iff, ofPieces_eq_error_iff]

/-- A block with two branches that both print, and a block without an end inside another one and
behind a comment. -/
theorem compile_follows_grammar_into_branches :
    let source := "\x7b\x7bwith .Path\x7d\x7d\x7b\x7b.\x7d\x7d" ++
      "\x7b\x7belse\x7d\x7d-\x7b\x7bend\x7d\x7d"
    let endless := "\x7b\x7bif .\x7d\x7d\x7b\x7b/**/\x7d\x7d\x7b\x7bwith .Path\x7d\x7d-"
    (compile source).map body =
        .ok (.branch .focus (.path ["Path"]) (.print .dot .done) (.text "-" .done) .done) ∧
      compile endless = .error (.missingEnd "with") := by
  intro source endless
  have hpath : Pipeline.Written .request (.path ["Path"]) ".Path".toList .text :=
    .path (by simp) (.cons ⟨by simp, by simp⟩ rfl .nil)
  have hwith : Opens .focus "with .Path".toList ".Path".toList :=
    ⟨" .Path".toList, by decide, by simp [isBlank], by decide⟩
  have hif : Opens .test "if .".toList ".".toList :=
    ⟨" .".toList, by decide, by simp [isBlank], by decide⟩
  constructor
  · have hpieces : Piece.ofSource source =
        .ok (.action "with .Path".toList :: ([.action ".".toList] ++ .action "else".toList ::
          ([.text ['-']] ++ [.action "end".toList]))) := by decide +kernel
    have hcompile := ((compile_follows_grammar hpieces).1 ⟨_, _⟩).2
      ⟨rfl, .blockElse hwith hpath (.print .dot (.inl rfl) .done) (.text .done) .done⟩
    rw [hcompile]
    rfl
  · have hpieces : Piece.ofSource endless =
        .ok [.action "if .".toList, .action "/**/".toList, .action "with .Path".toList,
          .text ['-']] := by decide +kernel
    have houter : Reached [.action "if .".toList]
        ⟨.request, .done, [⟨.test, .dot, .done, .request, none⟩]⟩ :=
      .first (.top .done) hif .dot .done
    exact ((compile_follows_grammar hpieces).2 _).2
      (.inr ⟨_, _, _, .first houter hwith hpath (.text .done), rfl, rfl⟩)

end Admission.Template
