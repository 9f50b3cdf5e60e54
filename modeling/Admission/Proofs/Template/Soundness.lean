/-
# Templates that compile cannot go wrong

Reading keeps everything well kinded, also while blocks are open: what precedes a block belongs
to the kind around the block, its first branch to the inner kind of the block, its second branch
to the kind around it again.  So a template that compiles is well kinded, and the only fault that
it can meet is a field of an absent caller (`execute_of_compile`).
-/
import Admission.Proofs.Template.Kinds

namespace Admission.Template

/-! ## Reading -/

/-- The open blocks around a place whose current value is of kind `dot`, the innermost first.
What precedes a block and the branch that is already complete are well kinded, and `dot` is the
kind that the branch being read asks for. -/
def Enclosed : Kind → List OpenBlock → Prop
  | dot, [] => dot = .request
  | dot, b :: blocks =>
    b.before.WellKinded b.outer ∧
      (∃ kind, b.subject.kind? b.outer = some kind ∧
        match b.first with
        | none => dot = b.block.innerKind b.outer kind
        | some first => dot = b.outer ∧ first.WellKinded (b.block.innerKind b.outer kind)) ∧
      Enclosed b.outer blocks

/-- What has been read so far is well kinded. -/
def Reading.WellKinded (s : Reading) : Prop :=
  s.body.WellKinded s.dot ∧ Enclosed s.dot s.blocks

lemma Reading.wellKinded_start : Reading.start.WellKinded := ⟨trivial, rfl⟩

lemma Reading.WellKinded.add {s : Reading} {b : Body} (hs : s.WellKinded)
    (hb : b.WellKinded s.dot) : (s.add b).WellKinded :=
  ⟨hs.1.append hb, hs.2⟩

lemma OpenBlock.closed_wellKinded {b : OpenBlock} {branch : Body} {dot : Kind}
    {blocks : List OpenBlock} (hblock : Enclosed dot (b :: blocks))
    (hbranch : branch.WellKinded dot) : (b.closed branch).WellKinded b.outer := by
  obtain ⟨-, ⟨kind, hsubject, hbranches⟩, -⟩ := hblock
  rw [OpenBlock.closed]
  cases hfirst : b.first with
  | none =>
    rw [hfirst] at hbranches
    exact ⟨⟨kind, hsubject, hbranches ▸ hbranch⟩, trivial, trivial⟩
  | some first =>
    rw [hfirst] at hbranches
    exact ⟨⟨kind, hsubject, hbranches.2⟩, hbranches.1 ▸ hbranch, trivial⟩

lemma Reading.follow_wellKinded {s t : Reading} {i : Instruction} (h : s.follow i = .ok t)
    (hs : s.WellKinded) : t.WellKinded := by
  obtain ⟨hbody, hblocks⟩ := hs
  cases i with
  | comment =>
    cases h
    exact ⟨hbody, hblocks⟩
  | close =>
    simp only [Reading.follow] at h
    split at h
    · exact absurd h (by simp)
    · rename_i b blocks hb
      cases h
      rw [hb] at hblocks
      exact ⟨hblocks.1.append (OpenBlock.closed_wellKinded hblocks hbody), hblocks.2.2⟩
  | otherwise =>
    simp only [Reading.follow] at h
    split at h
    · exact absurd h (by simp)
    · rename_i b blocks hb
      split at h
      · exact absurd h (by simp)
      · rename_i hfirst
        cases h
        -- the branch that ends here is the first one, so `s.dot` was the inner kind
        rw [hb, Enclosed, hfirst] at hblocks
        obtain ⟨hbefore, ⟨kind, hsubject, hdot⟩, houter⟩ := hblocks
        exact ⟨trivial, hbefore, ⟨kind, hsubject, rfl, hdot ▸ hbody⟩, houter⟩
  | opens block subject =>
    simp only [Reading.follow, map_eq_ok_iff] at h
    obtain ⟨⟨value, kind⟩, hread, rfl⟩ := h
    exact ⟨trivial, hbody, ⟨kind, Pipeline.kind?_of_read hread, rfl⟩, hblocks⟩
  | prints value =>
    simp only [Reading.follow] at h
    split at h
    · exact absurd h (by simp)
    · rename_i p kind hread
      split at h
      · rename_i hprintable
        cases h
        exact WellKinded.add ⟨hbody, hblocks⟩
          ⟨⟨kind, Pipeline.kind?_of_read hread, hprintable⟩, trivial⟩
      · exact absurd h (by simp)

/-- Every piece that the reader accepts keeps what has been read well kinded. -/
lemma Reading.step_wellKinded {s t : Reading} {p : Piece} (h : s.step p = .ok t)
    (hs : s.WellKinded) : t.WellKinded := by
  cases p with
  | text cs =>
    cases h
    exact hs.add trivial
  | action body => exact follow_wellKinded h hs

/-- What the reader accepts is well kinded where the current value is the request. -/
lemma Body.wellKinded_of_ofPieces {pieces : List Piece} {b : Body}
    (h : Body.ofPieces pieces = .ok b) : b.WellKinded .request := by
  rw [Body.ofPieces] at h
  split at h
  · exact absurd h (by simp)
  · rename_i s hs
    have hread : s.WellKinded :=
      foldlM_keeps (fun _ _ _ _ => Reading.step_wellKinded) hs Reading.wellKinded_start
    rw [Reading.finish] at h
    split at h
    · rename_i hblocks
      cases h
      obtain ⟨hbody, hdot⟩ := hread
      rw [hblocks] at hdot
      exact hdot ▸ hbody
    · exact absurd h (by simp)

/-! ## Executing -/

lemma wellKinded_of_compile {source : String} {t : Template} (h : compile source = .ok t) :
    t.body.WellKinded .request := by
  rw [compile] at h
  split at h
  · exact absurd h (by simp)
  · obtain ⟨body, hbody, rfl⟩ := map_eq_ok_iff.1 h
    exact Body.wellKinded_of_ofPieces hbody

lemma execute_yields {source : String} {t : Template} (h : compile source = .ok t) (r : Request) :
    Yields r (fun _ => True) (t.execute r) := by
  rw [execute]
  split
  · trivial
  · exact Body.render_yields (wellKinded_of_compile h) HasKind.request

/-- **Templates that compile cannot go wrong.**  Executing one gives a text or the fault that a
field of the caller was read in an anonymous request, and nothing else; in particular with a
caller it gives a text. -/
theorem execute_of_compile {source : String} {t : Template} (h : compile source = .ok t)
    (r : Request) :
    ((∃ text, t.execute r = .ok text) ∨ ∃ field, t.execute r = .error (.nilField field)) ∧
      (r.identity.isSome → ∃ text, t.execute r = .ok text) ∧
      ∀ field, t.execute r = .error (.nilField field) →
        r.identity = none ∧ field ∈ ["Subject", "Tenant", "Plan", "IsDevice", "IsUser"] := by
  have hyields := execute_yields h r
  cases hx : t.execute r with
  | ok text => simp
  | error e =>
    rw [hx] at hyields
    obtain ⟨hnone, field, hfield, rfl⟩ := hyields
    refine ⟨.inr ⟨field, rfl⟩, by simp [hnone], ?_⟩
    rintro _ ⟨⟩
    exact ⟨hnone, hfield⟩

/-- A template whose dot moves to the headers and back before it reads the caller, for an
anonymous request. -/
theorem execute_of_compile_anonymous :
    let source := "\x7b\x7bwith .Header\x7d\x7d\x7b\x7b.A\x7d\x7d\x7b\x7belse\x7d\x7d\x7b\x7b.Path\x7d\x7d\x7b\x7bend\x7d\x7d" ++
      "\x7b\x7bif .Path\x7d\x7d\x7b\x7b.Identity.Plan\x7d\x7d\x7b\x7bend\x7d\x7d"
    let body := Body.branch .focus (.path ["Header"]) (.print (.path ["A"]) .done)
      (.print (.path ["Path"]) .done)
      (.branch .test (.path ["Path"]) (.print (.path ["Identity", "Plan"]) .done) .done .done)
    let request := Request.make "GET" "/"
    compile source = .ok ⟨source, body⟩ ∧
      (Template.mk source body).execute request = .error (.nilField "Plan") ∧
      request.identity = none ∧ "Plan" ∈ ["Subject", "Tenant", "Plan", "IsDevice", "IsUser"] := by
  intro source body request
  have hcompile : compile source = .ok ⟨source, body⟩ := by decide +kernel
  have hfault : (Template.mk source body).execute request = .error (.nilField "Plan") := by
    decide +kernel
  exact ⟨hcompile, hfault, (execute_of_compile hcompile request).2.2 "Plan" hfault⟩

end Admission.Template
