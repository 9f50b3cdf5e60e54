/-
# The grammar of templates

The pieces of a template, without its comments, are a list of texts, of pipelines that are printed,
and of blocks with one branch or two.  `Derives` is this grammar.  It follows the kind of the
current value, which decides what the pipelines may be, and carries the body that a derivation
stands for.

The reader goes through the pieces once, with the open blocks on a stack.  A place that it comes to
is described by the grammar as well (`Reached`): the lists that are complete, and for each open
block the branch that is being read.  The reader adds a list to what it has read before
(`foldlM_step_of_derives`), so it comes to every place that the grammar describes
(`foldlM_step_of_reached`).
-/
import Admission.Proofs.Template.Pipelines
import Admission.Proofs.Template.Nesting

namespace Admission.Template

open Text

/-! ## Actions -/

/-- A comment starts with a slash and a star and ends with a star and a slash. -/
def Comment (body : List Char) : Prop :=
  ['/', '*'] <+: body ∧ ['*', '/'] <:+ body

/-- An action opens a block on a subject: the keyword alone, or with a blank behind it. -/
def Opens (block : Block) (body subject : List Char) : Prop :=
  ∃ rest, body = block.keyword.toList ++ rest ∧ (∀ c ∈ rest.head?, isBlank c = true) ∧
    subject = trim rest

/-- An action that is nothing else prints a value. -/
structure Prints (body : List Char) : Prop where
  not_comment : ¬ Comment body
  not_end : body ≠ "end".toList
  not_else : body ≠ "else".toList
  not_opens : ∀ block subject, ¬ Opens block body subject

section actions

variable {body subject : List Char} {block : Block}

lemma isComment_iff : isComment body = true ↔ Comment body := by
  simp only [isComment, Bool.and_eq_true, Option.isSome_iff_exists, afterStart?_eq_some_iff,
    beforeEnd?_eq_some_iff, Comment]
  exact and_congr (exists_congr fun _ => eq_comm) (exists_congr fun _ => eq_comm)

instance (body : List Char) : Decidable (Comment body) :=
  decidable_of_iff _ isComment_iff

lemma afterKeyword?_eq_some_iff :
    afterKeyword? block.keyword body = some subject ↔ Opens block body subject := by
  rw [afterKeyword?]
  cases hrest : afterStart? block.keyword.toList body with
  | none =>
    refine iff_of_false (by simp) ?_
    rintro ⟨rest, hbody, -⟩
    rw [afterStart?_eq_some_iff.2 hbody] at hrest
    cases hrest
  | some rest =>
    rw [afterStart?_eq_some_iff] at hrest
    have hopens : Opens block body subject ↔
        (∀ c ∈ rest.head?, isBlank c = true) ∧ subject = trim rest := by
      constructor
      · rintro ⟨rest', hbody, h⟩
        rw [hrest, List.append_cancel_left_eq] at hbody
        exact hbody ▸ h
      · exact fun h => ⟨rest, hrest, h⟩
    rw [hopens]
    cases rest with
    | nil => simp
    | cons c cs =>
      cases hblank : isBlank c with
      | true => simp [hblank, eq_comm (a := subject)]
      | false => simp [hblank]

/-- A subject has no outer blanks. -/
lemma Opens.trim_eq (h : Opens block body subject) : trim subject = subject := by
  obtain ⟨rest, -, -, rfl⟩ := h
  exact trim_trim rest

lemma ofBody_of_comment (h : Comment body) : Instruction.ofBody body = .comment := by
  rw [Instruction.ofBody, if_pos (isComment_iff.2 h)]

lemma ofBody_end : Instruction.ofBody "end".toList = .close := by decide

lemma ofBody_else : Instruction.ofBody "else".toList = .otherwise := by decide

/-- No action that opens a block could be anything else. -/
lemma ofBody_of_opens (h : Opens block body subject) :
    Instruction.ofBody body = .opens block subject := by
  have hkeyword := afterKeyword?_eq_some_iff.2 h
  obtain ⟨rest, rfl, -⟩ := h
  cases block with
  | test => simp_all [Instruction.ofBody, isComment, afterStart?, Block.keyword]
  | focus => simp_all [Instruction.ofBody, isComment, afterStart?, Block.keyword, afterKeyword?]

lemma ofBody_of_prints (h : Prints body) : Instruction.ofBody body = .prints body := by
  have hkeyword (block : Block) : afterKeyword? block.keyword body = none :=
    Option.eq_none_iff_forall_ne_some.2 fun subject hsubject =>
      h.not_opens block subject (afterKeyword?_eq_some_iff.1 hsubject)
  rw [Instruction.ofBody, if_neg (isComment_iff.not.2 h.not_comment), if_neg h.not_end,
    if_neg h.not_else, hkeyword, hkeyword]

/-- What an action can be. -/
lemma action_cases (body : List Char) :
    Comment body ∨ body = "end".toList ∨ body = "else".toList ∨
      (∃ block subject, Opens block body subject) ∨ Prints body := by
  by_cases hcomment : Comment body
  · exact .inl hcomment
  by_cases hend : body = "end".toList
  · exact .inr (.inl hend)
  by_cases helse : body = "else".toList
  · exact .inr (.inr (.inl helse))
  by_cases hopens : ∃ block subject, Opens block body subject
  · exact .inr (.inr (.inr (.inl hopens)))
  · exact .inr (.inr (.inr (.inr ⟨hcomment, hend, helse, fun block subject h =>
      hopens ⟨block, subject, h⟩⟩)))

/-- An action that is a pipeline cannot be taken for anything else. -/
lemma prints_of_written {dot kind : Kind} {p : Pipeline} (h : p.Written dot (trim body) kind) :
    Prints body := by
  have hfirst (c : Char) (cs : List Char) (hbody : body = c :: cs) (hc : isBlank c = false) :
      c = '.' ∨ c = '"' := by
    have hhead : (trim body).head? = some c := hbody ▸ head?_trim_cons hc cs
    exact h.head?_eq.imp (Option.some.inj <| hhead.symm.trans ·)
      (Option.some.inj <| hhead.symm.trans ·)
  constructor
  · rintro ⟨⟨rest, hrest⟩, -⟩
    exact absurd (hfirst '/' _ hrest.symm (by decide)) (by decide)
  · intro hend
    exact absurd (hfirst 'e' _ hend (by decide)) (by decide)
  · intro helse
    exact absurd (hfirst 'e' _ helse (by decide)) (by decide)
  · rintro block subject ⟨rest, hrest, -⟩
    cases block with
    | test => exact absurd (hfirst 'i' _ hrest (by decide)) (by decide)
    | focus => exact absurd (hfirst 'w' _ hrest (by decide)) (by decide)

end actions

/-! ## Lists of pieces -/

/-- The pieces are a list where the current value is of kind `dot`, and the body is what they stand
for.  In the first branch of a block the current value has the inner kind of the block, everywhere
else that of the list around. -/
inductive Derives : Kind → List Piece → Body → Prop
  | done {dot : Kind} : Derives dot [] .done
  | text {dot : Kind} {cs : List Char} {items : List Piece} {rest : Body}
    (h : Derives dot items rest) : Derives dot (.text cs :: items) (.text (String.ofList cs) rest)
  | print {dot kind : Kind} {body : List Char} {p : Pipeline} {items : List Piece} {rest : Body}
    (hvalue : p.Written dot (trim body) kind) (hkind : kind = .text ∨ kind = .flag)
    (h : Derives dot items rest) : Derives dot (.action body :: items) (.print p rest)
  | block {dot kind : Kind} {block : Block} {body subject : List Char} {p : Pipeline}
    {inner items : List Piece} {first rest : Body} (hopens : Opens block body subject)
    (hsubject : p.Written dot subject kind)
    (hfirst : Derives (block.innerKind dot kind) inner first) (h : Derives dot items rest) :
    Derives dot (.action body :: (inner ++ .action "end".toList :: items))
      (.branch block p first .done rest)
  | blockElse {dot kind : Kind} {block : Block} {body subject : List Char} {p : Pipeline}
    {inner other items : List Piece} {first second rest : Body} (hopens : Opens block body subject)
    (hsubject : p.Written dot subject kind)
    (hfirst : Derives (block.innerKind dot kind) inner first)
    (hsecond : Derives dot other second) (h : Derives dot items rest) :
    Derives dot (.action body :: (inner ++ .action "else".toList ::
      (other ++ .action "end".toList :: items))) (.branch block p first second rest)

lemma Derives.append {dot : Kind} {items more : List Piece} {a b : Body} (ha : Derives dot items a)
    (hb : Derives dot more b) : Derives dot (items ++ more) (a ++ b) := by
  induction ha with
  | done => exact hb
  | text _ ih => exact .text (ih hb)
  | print hvalue hkind _ ih => exact .print hvalue hkind (ih hb)
  | block hopens hsubject hfirst _ _ ih =>
    rw [List.cons_append, List.append_assoc, List.cons_append]
    exact .block hopens hsubject hfirst (ih hb)
  | blockElse hopens hsubject hfirst hsecond _ _ _ ih =>
    rw [List.cons_append, List.append_assoc, List.cons_append, List.append_assoc, List.cons_append]
    exact .blockElse hopens hsubject hfirst hsecond (ih hb)

/-- The pieces lead from the start of a template to a place inside it: complete lists, and openings
of the blocks that are still open. -/
inductive Reached : List Piece → Reading → Prop
  | top {items : List Piece} {body : Body} (h : Derives .request items body) :
    Reached items ⟨.request, body, []⟩
  | first {before items : List Piece} {outer kind : Kind} {prior body : Body}
    {blocks : List OpenBlock} {block : Block} {action subject : List Char} {p : Pipeline}
    (hbefore : Reached before ⟨outer, prior, blocks⟩) (hopens : Opens block action subject)
    (hsubject : p.Written outer subject kind)
    (h : Derives (block.innerKind outer kind) items body) :
    Reached (before ++ .action action :: items)
      ⟨block.innerKind outer kind, body, ⟨block, p, prior, outer, none⟩ :: blocks⟩
  | second {before items : List Piece} {dot outer : Kind} {prior first body : Body}
    {blocks : List OpenBlock} {block : Block} {p : Pipeline}
    (hbefore : Reached before ⟨dot, first, ⟨block, p, prior, outer, none⟩ :: blocks⟩)
    (h : Derives outer items body) :
    Reached (before ++ .action "else".toList :: items)
      ⟨outer, body, ⟨block, p, prior, outer, some first⟩ :: blocks⟩

/-- A place is moved on by a list. -/
lemma Reached.append {before items : List Piece} {r : Reading} {b : Body} (hr : Reached before r)
    (h : Derives r.dot items b) : Reached (before ++ items) (r.add b) := by
  cases hr with
  | top hbody => exact .top (hbody.append h)
  | first hbefore hopens hsubject hbody =>
    rw [List.append_assoc, List.cons_append]
    exact .first hbefore hopens hsubject (hbody.append h)
  | second hbefore hbody =>
    rw [List.append_assoc, List.cons_append]
    exact .second hbefore (hbody.append h)

/-! ## What the grammar derives is read -/

section reading

lemma Reading.add_add (r : Reading) (a b : Body) : (r.add a).add b = r.add (a ++ b) := by
  rw [add, add, add, Body.append_assoc]

variable {r : Reading} {body subject : List Char} {block : Block} {p : Pipeline} {kind : Kind}


lemma step_of_opens (hopens : Opens block body subject) (h : p.Written r.dot subject kind) :
    r.step (.action body) =
      .ok ⟨block.innerKind r.dot kind, .done, ⟨block, p, r.body, r.dot, none⟩ :: r.blocks⟩ := by
  have hread : Pipeline.read r.dot subject = .ok (p, kind) :=
    Pipeline.read_of_written (hopens.trim_eq.symm ▸ h)
  rw [Reading.step, ofBody_of_opens hopens, Reading.follow, hread]
  rfl

lemma step_of_prints (h : p.Written r.dot (trim body) kind) (hkind : kind = .text ∨ kind = .flag) :
    r.step (.action body) = .ok (r.add (.print p .done)) := by
  rw [Reading.step, ofBody_of_prints (prints_of_written h), Reading.follow,
    Pipeline.read_eq_ok_iff.2 h]
  rcases hkind with rfl | rfl <;> rfl

lemma step_end (dot : Kind) (body : Body) (b : OpenBlock) (blocks : List OpenBlock) :
    Reading.step ⟨dot, body, b :: blocks⟩ (.action "end".toList) =
      .ok ⟨b.outer, b.before ++ b.closed body, blocks⟩ := by
  rw [Reading.step, ofBody_end]
  rfl

lemma step_else (dot outer : Kind) (body prior : Body) (block : Block) (p : Pipeline)
    (blocks : List OpenBlock) :
    Reading.step ⟨dot, body, ⟨block, p, prior, outer, none⟩ :: blocks⟩ (.action "else".toList) =
      .ok ⟨outer, .done, ⟨block, p, prior, outer, some body⟩ :: blocks⟩ := by
  rw [Reading.step, ofBody_else]
  rfl

/-- What the grammar derives is added to what has been read. -/
lemma foldlM_step_of_derives {dot : Kind} {items : List Piece} {b : Body}
    (h : Derives dot items b) :
    ∀ r : Reading, r.dot = dot → items.foldlM Reading.step r = .ok (r.add b) := by
  induction h with
  | done =>
    rintro r -
    rw [Reading.add, Body.append_done]
    rfl
  | text _ ih =>
    intro r hdot
    refine (foldlM_cons_of_ok rfl _).trans ((ih (r.add _) hdot).trans ?_)
    rw [Reading.add_add]
    rfl
  | print hvalue hkind _ ih =>
    rintro r rfl
    refine (foldlM_cons_of_ok (step_of_prints hvalue hkind) _).trans ((ih (r.add _) rfl).trans ?_)
    rw [Reading.add_add]
    rfl
  | block hopens hsubject _ _ ihfirst ih =>
    rintro r rfl
    refine (foldlM_cons_of_ok (step_of_opens hopens hsubject) _).trans ?_
    refine (foldlM_append_of_ok (ihfirst _ rfl) _).trans ?_
    refine (foldlM_cons_of_ok (step_end _ _ _ _) _).trans ?_
    exact (ih (r.add _) rfl).trans (by rw [Reading.add_add]; rfl)
  | @blockElse _ _ block _ _ p _ _ _ first _ _ hopens hsubject _ _ _ ihfirst ihsecond ih =>
    rintro r rfl
    -- the second branch is read where the first one has been put aside
    have hsecond := ihsecond ⟨r.dot, .done, ⟨block, p, r.body, r.dot, some first⟩ :: r.blocks⟩ rfl
    refine (foldlM_cons_of_ok (step_of_opens hopens hsubject) _).trans ?_
    refine (foldlM_append_of_ok (ihfirst _ rfl) _).trans ?_
    refine (foldlM_cons_of_ok (step_else _ _ _ _ _ _ _) _).trans ?_
    refine (foldlM_append_of_ok hsecond _).trans ?_
    refine (foldlM_cons_of_ok (step_end _ _ _ _) _).trans ?_
    exact (ih (r.add _) rfl).trans (by rw [Reading.add_add]; rfl)

lemma foldlM_step_of_reached {items : List Piece} (h : Reached items r) :
    items.foldlM Reading.step .start = .ok r := by
  induction h with
  | top h => exact foldlM_step_of_derives h .start rfl
  | first _ hopens hsubject h ih =>
    refine (foldlM_append_of_ok ih _).trans ?_
    refine (foldlM_cons_of_ok (step_of_opens hopens hsubject) _).trans ?_
    exact foldlM_step_of_derives h _ rfl
  | second _ h ih =>
    refine (foldlM_append_of_ok ih _).trans ?_
    refine (foldlM_cons_of_ok (step_else _ _ _ _ _ _ _) _).trans ?_
    exact foldlM_step_of_derives h _ rfl

end reading

end Admission.Template
