/-
# Templates made of templates

Sources that compile can be put one after another, and into the two branches of a block, and the
template that comes out does what its parts do (`execute_composes`).  Three things have to be seen
to: the parts are cut where they were cut before, although the texts at a seam become one; pieces
that can be read on their own are read the same behind others and in a branch; and a part that is
the same for all requests, which is not rendered at all on its own, gives what it would render.

Trim markers would reach over the seam into the next part, and an opening brace at the end of a part
would meet one at the start of the next part.  Sources without either are `Composable`.
-/
import Admission.Proofs.Template.Splitting
import Admission.Proofs.Template.Nesting
import Admission.Proofs.Template.Rendering
import Admission.Proofs.Template.Spelling

namespace Admission.Template

open Text Reading

/-! ## Actions without markers -/

/-- The inside of an action has no trim marker at either end. -/
def Unmarked (inside : List Char) : Prop :=
  afterMarker? inside = none ∧ afterMarker? inside.reverse = none

lemma unmarked_of_ends {inside : List Char} (hfirst : inside.head? ≠ some '-')
    (hlast : ∀ d, isBlank d = true → ¬ [d, '-'] <:+ inside) : Unmarked inside := by
  constructor
  · rw [afterMarker?_eq_none_iff]
    rintro ⟨d, -, rest, rfl⟩
    exact hfirst rfl
  · rw [afterMarker?_eq_none_iff, markedBefore_reverse_iff]
    rintro ⟨d, hd, hmark⟩
    exact hlast d hd hmark

lemma ofInside_of_unmarked {inside : List Char} (h : Unmarked inside) :
    Action.ofInside inside = ⟨false, false, trim inside⟩ := by
  rw [Action.ofInside, h.1, Option.getD_none, h.2]
  rfl

/-- An action stands among others with its braces. -/
lemma isInfix_spelled {inside after : List Char} {actions : List (List Char × List Char)}
    (h : (inside, after) ∈ actions) :
    '{' :: '{' :: (inside ++ ['}', '}']) <:+: spelled actions := by
  induction actions with
  | nil => exact absurd h List.not_mem_nil
  | cons action more ih =>
    rw [spelled]
    rcases List.mem_cons.1 h with rfl | hmore
    · exact ⟨[], after ++ spelled more, by simp⟩
    · obtain ⟨front, back, hinfix⟩ := ih hmore
      exact ⟨'{' :: '{' :: (action.1 ++ '}' :: '}' :: (action.2 ++ front)), back,
        by simp [← hinfix]⟩

/-- No action has a trim marker. -/
def Cuts.Unmarked (cuts : Cuts) : Prop :=
  ∀ a ∈ cuts.actions, Template.Unmarked a.1

/-- Actions in a source without markers have none. -/
lemma unmarked_of_source {cuts : Cuts} (hopen : ¬ ['{', '{', '-'] <:+: cuts.source)
    (hclose : ¬ ['-', '}', '}'] <:+: cuts.source) : cuts.Unmarked := by
  rintro ⟨inside, after⟩ ha
  have hinfix : '{' :: '{' :: (inside ++ ['}', '}']) <:+: cuts.source :=
    (isInfix_spelled ha).trans (List.suffix_append _ _).isInfix
  refine unmarked_of_ends (fun hfirst => hopen ?_) fun d _ hlast => hclose ?_
  · obtain ⟨rest, rfl⟩ := List.head?_eq_some_iff.1 hfirst
    exact List.IsInfix.trans ⟨[], rest ++ ['}', '}'], by simp⟩ hinfix
  · obtain ⟨front, rfl⟩ := hlast
    exact List.IsInfix.trans ⟨'{' :: '{' :: (front ++ [d]), [], by simp⟩ hinfix

lemma Cuts.Unmarked.append {cuts next : Cuts} (h : cuts.Unmarked) (hnext : next.Unmarked) :
    (cuts.append next).Unmarked := by
  suffices ∀ text actions, (∀ a ∈ actions, Template.Unmarked a.1) →
      (followedBy next text actions).Unmarked from this _ _ h
  intro text actions hactions
  induction actions generalizing text with
  | nil => exact hnext
  | cons action more ih =>
    intro a ha
    rcases List.mem_cons.1 ha with rfl | ha
    · exact hactions action List.mem_cons_self
    · exact ih _ (fun a ha => hactions a (List.mem_cons_of_mem _ ha)) a ha

/-! ## Pieces of sources without markers -/

/-- The pieces of actions without markers. -/
def actionPieces (actions : List (List Char × List Char)) : List Piece :=
  actions.flatMap fun (inside, after) => .action (trim inside) :: textPieces after

lemma piecesFrom_of_unmarked {text : List Char} {actions : List (List Char × List Char)}
    (h : ∀ a ∈ actions, Unmarked a.1) :
    piecesFrom false text actions = textPieces text ++ actionPieces actions := by
  induction actions generalizing text with
  | nil => simp [piecesFrom, actionPieces]
  | cons action more ih =>
    obtain ⟨inside, after⟩ := action
    have hmore : piecesFrom false after more = textPieces after ++ actionPieces more :=
      ih fun a ha => h a (List.mem_cons_of_mem _ ha)
    rw [piecesFrom, ofInside_of_unmarked (h _ List.mem_cons_self)]
    simp [hmore, actionPieces]

lemma Cuts.Unmarked.pieces_eq {cuts : Cuts} (h : cuts.Unmarked) :
    cuts.pieces = textPieces cuts.head ++ actionPieces cuts.actions :=
  piecesFrom_of_unmarked h

/-- Where one source goes on into another, the text at the end of the one and the text at the start
of the other become one piece. -/
lemma exists_seam (text : List Char) (actions : List (List Char × List Char)) :
    ∃ front last, textPieces text ++ actionPieces actions = front ++ textPieces last ∧
      ∀ next : Cuts, textPieces (followedBy next text actions).head ++
        actionPieces (followedBy next text actions).actions =
          front ++ (textPieces (last ++ next.head) ++ actionPieces next.actions) := by
  induction actions generalizing text with
  | nil => exact ⟨[], text, by simp [actionPieces], fun next => rfl⟩
  | cons action more ih =>
    obtain ⟨inside, after⟩ := action
    obtain ⟨front, last, hpieces, hnext⟩ := ih after
    refine ⟨textPieces text ++ .action (trim inside) :: front, last, ?_, fun next => ?_⟩
    · rw [List.append_assoc, List.cons_append, ← hpieces]
      rfl
    · rw [List.append_assoc, List.cons_append, ← hnext]
      rfl

section seam

variable {cuts next : Cuts}

lemma Cuts.Unmarked.exists_seam (h : cuts.Unmarked) (hnext : next.Unmarked) :
    ∃ front last, cuts.pieces = front ++ textPieces last ∧
      (cuts.append next).pieces =
        front ++ (textPieces (last ++ next.head) ++ actionPieces next.actions) := by
  obtain ⟨front, last, hpieces, hseam⟩ := Template.exists_seam cuts.head cuts.actions
  exact ⟨front, last, h.pieces_eq.trans hpieces, (h.append hnext).pieces_eq.trans (hseam next)⟩

/-- If the second source starts with an action, no texts meet. -/
lemma Cuts.Unmarked.pieces_append (h : cuts.Unmarked) (hnext : next.Unmarked)
    (hhead : next.head = []) : (cuts.append next).pieces = cuts.pieces ++ next.pieces := by
  obtain ⟨front, last, hpieces, hwhole⟩ := h.exists_seam hnext
  rw [hwhole, hpieces, hnext.pieces_eq, hhead, List.append_nil, List.append_assoc]
  rfl

lemma render_textBody (cs : List Char) (dot : Value) :
    (textBody cs).render dot = .ok (String.ofList cs) := by
  cases cs with
  | nil => rfl
  | cons c cs => exact joined_ok_empty (.ok _)

/-- Cut sources that can be read on their own can be read one after the other. -/
lemma Cuts.Unmarked.ofPieces_append {x y : Body} (h : cuts.Unmarked) (hnext : next.Unmarked)
    (hx : Body.ofPieces cuts.pieces = .ok x) (hy : Body.ofPieces next.pieces = .ok y) :
    ∃ z, Body.ofPieces (cuts.append next).pieces = .ok z ∧
      ∀ dot, z.render dot = joined (x.render dot) (y.render dot) := by
  obtain ⟨front, last, hpieces, hwhole⟩ := h.exists_seam hnext
  rw [hpieces] at hx
  rw [hnext.pieces_eq] at hy
  -- the texts at the seam are taken off on either side
  obtain ⟨a, ha, rfl⟩ := exists_of_ofPieces_append_textPieces hx
  obtain ⟨b, hb, rfl⟩ := exists_of_ofPieces_textPieces_append hy
  refine ⟨a ++ (textBody (last ++ next.head) ++ b), ?_, fun dot => ?_⟩
  · rw [hwhole]
    exact Template.ofPieces_append ha (Template.ofPieces_append (ofPieces_textPieces _) hb)
  · have htext : (textBody (last ++ next.head)).render dot =
        joined ((textBody last).render dot) ((textBody next.head).render dot) := by
      rw [render_textBody, render_textBody, render_textBody, String.ofList_append]
      rfl
    simp only [Body.render_append, htext, joined_assoc]

end seam

/-! ## Blocks around sources -/

/-- The cuts of an action on its own. -/
def Cuts.ofAction (inside : List Char) : Cuts :=
  ⟨[], [(inside, [])]⟩

section block

variable {inside : List Char} {p : Pipeline} {kind : Kind} {x y : Body}

lemma cutText_action (h : Shut inside) :
    cutText 0 ('{' :: '{' :: (inside ++ ['}', '}'])) = .ok (.ofAction inside) := by
  rw [cutText_eq_ok_iff]
  exact ⟨by simp [Cuts.source, Cuts.ofAction, spelled], plain_brace, h, plain_nil⟩

/-- A source behind an action is cut as it is cut on its own. -/
lemma cutText_action_append {cs : List Char} {next : Cuts} (h : Shut inside)
    (hnext : cutText 0 cs = .ok next) :
    cutText 0 ('{' :: '{' :: (inside ++ ['}', '}']) ++ cs) =
      .ok ((Cuts.ofAction inside).append next) := by
  have hend : ('{' :: '{' :: (inside ++ ['}', '}'])).getLast? = some '}' := by
    simp [List.getLast?_cons, List.getLast?_append]
  exact cutText_append (cutText_action h) hnext (by rw [hend]; decide)

lemma Unmarked.ofAction (h : Unmarked inside) : (Cuts.ofAction inside).Unmarked := by
  intro a ha
  obtain rfl := List.mem_singleton.1 ha
  exact h

lemma Unmarked.pieces_ofAction_append (h : Unmarked inside) (next : Cuts) :
    ((Cuts.ofAction inside).append next).pieces = .action (trim inside) :: next.pieces := by
  rw [Cuts.append, Cuts.ofAction, followedBy, followedBy, Cuts.pieces, piecesFrom,
    ofInside_of_unmarked h]
  rfl

/-- The inside of the action that opens a block on a subject. -/
def opening (subject : List Char) : List Char :=
  'i' :: 'f' :: ' ' :: subject

lemma shut_opening {subject : List Char} (h : Pipeline.read .request subject = .ok (p, kind))
    (hclosing : ¬ ['}', '}'] <:+: subject) : Shut (opening subject) := by
  have hsubject : ¬ ['}', '}'] <:+: subject ++ ['}'] :=
    not_pair_isInfix_append hclosing (by decide) (not_ends_of_read h).1
  have hwhole : ¬ ['}', '}'] <:+: ['i', 'f', ' '] ++ (subject ++ ['}']) :=
    not_pair_isInfix_append (by decide) hsubject (by decide)
  exact hwhole

lemma unmarked_opening {subject : List Char}
    (h : Pipeline.read .request subject = .ok (p, kind)) : Unmarked (opening subject) :=
  unmarked_of_ends (by simp [opening]) ((not_ends_of_read h).2 ['i', 'f', ' '])

/-- The action opens a block on what the subject is read as. -/
lemma ofBody_opening {subject : List Char} (h : Pipeline.read .request subject = .ok (p, kind)) :
    ∃ rest, Instruction.ofBody (trim (opening subject)) = .opens .test rest ∧
      Pipeline.read .request rest = .ok (p, kind) := by
  have hne : trimEnd subject ≠ [] := by
    intro hnil
    have htrim := trimStart_trimEnd subject
    rw [hnil, trimStart_nil] at htrim
    exact trim_ne_nil_of_read h htrim.symm
  have hbody : trim (opening subject) = 'i' :: 'f' :: ' ' :: trimEnd subject := by
    have hend : trimEnd (['i', 'f', ' '] ++ subject) = ['i', 'f', ' '] ++ trimEnd subject :=
      trimEnd_append hne
    rw [trim, opening, trimStart_cons_of_not_blank _ (by decide)]
    exact hend
  refine ⟨trim (' ' :: trimEnd subject), ?_, ?_⟩
  · rw [hbody]
    simp [Instruction.ofBody, isComment, afterStart?, afterKeyword?, Block.keyword,
      show isBlank ' ' = true by decide]
  · have hrest : trim (' ' :: trimEnd subject) = trim subject := by
      rw [trim, trimStart_cons_of_blank _ (by decide), trimStart_trimEnd, trim, trimEnd_trimEnd]
    rw [hrest, read_trim, h]

/-- The cuts of a block with these cuts in its branches. -/
def Cuts.block (subject : List Char) (first second : Cuts) : Cuts :=
  (ofAction (opening subject)).append
    (first.append ((ofAction "else".toList).append (second.append (ofAction "end".toList))))

lemma cutText_block {subject cs ds : List Char} {first second : Cuts}
    (hsubject : Shut (opening subject)) (hfirst : cutText 0 cs = .ok first)
    (hcs : cs.getLast? ≠ some '{') (hsecond : cutText 0 ds = .ok second)
    (hds : ds.getLast? ≠ some '{') :
    cutText 0 ('{' :: '{' :: (opening subject ++ ['}', '}']) ++ (cs ++
      ('{' :: '{' :: ("else".toList ++ ['}', '}']) ++ (ds ++
        '{' :: '{' :: ("end".toList ++ ['}', '}']))))) = .ok (.block subject first second) := by
  have hfromSecond := cutText_append hsecond (cutText_action (by decide : Shut "end".toList)) hds
  have hfromElse := cutText_action_append (by decide : Shut "else".toList) hfromSecond
  exact cutText_action_append hsubject (cutText_append hfirst hfromElse hcs)

lemma Cuts.pieces_block {subject : List Char} {first second : Cuts}
    (hsubject : Template.Unmarked (opening subject)) (hfirst : first.Unmarked)
    (hsecond : second.Unmarked) :
    (Cuts.block subject first second).pieces = .action (trim (opening subject)) ::
      (first.pieces ++ .action "else".toList :: (second.pieces ++ [.action "end".toList])) := by
  have helse : Template.Unmarked "else".toList := ⟨by decide, by decide⟩
  have hend : Template.Unmarked "end".toList := ⟨by decide, by decide⟩
  have hfromElse := helse.ofAction.append (hsecond.append hend.ofAction)
  rw [block, hsubject.pieces_ofAction_append, hfirst.pieces_append hfromElse rfl,
    helse.pieces_ofAction_append, hsecond.pieces_append hend.ofAction rfl, hend.ofAction.pieces_eq]
  rfl

/-- Pieces that can be read on their own can be read as the branches of a block. -/
lemma ofPieces_block {body rest : List Char} {pieces more : List Piece}
    (hopens : Instruction.ofBody body = .opens .test rest)
    (hread : Pipeline.read .request rest = .ok (p, kind))
    (hx : Body.ofPieces pieces = .ok x) (hy : Body.ofPieces more = .ok y) :
    Body.ofPieces (.action body :: (pieces ++ .action "else".toList ::
      (more ++ [.action "end".toList]))) = .ok (.branch .test p x y .done) := by
  let outer : OpenBlock := ⟨.test, p, .done, .request, none⟩
  let second : List Piece := more ++ [.action "end".toList]
  have hopen : start.step (.action body) = .ok ⟨.request, .done, [outer]⟩ := by
    have hstart : Pipeline.read start.dot rest = .ok (p, kind) := hread
    rw [step, hopens, follow, hstart]
    rfl
  have helse : Instruction.ofBody "else".toList = .otherwise := by decide
  have hend : Instruction.ofBody "end".toList = .close := by decide
  rw [ofPieces_eq_ok_iff, List.foldlM_cons, hopen]
  calc (pieces ++ .action "else".toList :: second).foldlM step ⟨.request, .done, [outer]⟩
    _ = (Piece.action "else".toList :: second).foldlM step ⟨.request, x, [outer]⟩ := by
      rw [List.foldlM_append, foldlM_step_of_ofPieces hx rfl]
      rfl
    _ = second.foldlM step ⟨.request, .done, [{ outer with first := some x }]⟩ := by
      rw [List.foldlM_cons, step, helse]
      rfl
    _ = [Piece.action "end".toList].foldlM step
        ⟨.request, y, [{ outer with first := some x }]⟩ := by
      rw [List.foldlM_append, foldlM_step_of_ofPieces hy rfl]
      rfl
    _ = .ok ⟨.request, .branch .test p x y .done, []⟩ := by
      rw [List.foldlM_cons, step, hend]
      rfl

end block

/-! ## Composing -/

lemma exists_cuts_of_compile {source : String} {t : Template} (h : compile source = .ok t) :
    ∃ cuts, cutText 0 source.toList = .ok cuts ∧ Body.ofPieces cuts.pieces = .ok t.body := by
  rw [compile] at h
  split at h
  · exact absurd h (by simp)
  · rename_i pieces hpieces
    obtain ⟨cuts, hcuts, rfl⟩ := map_eq_ok_iff.1 hpieces
    obtain ⟨body, hbody, rfl⟩ := map_eq_ok_iff.1 h
    exact ⟨cuts, hcuts, hbody⟩

lemma compile_of_cuts {source : String} {cuts : Cuts} {b : Body}
    (hcuts : cutText 0 source.toList = .ok cuts) (hb : Body.ofPieces cuts.pieces = .ok b) :
    compile source = .ok ⟨source, b⟩ := by
  rw [compile, Piece.ofSource, hcuts]
  simp only [Except.map, hb]

/-- A source that can be put before others: it has no trim marker, and no brace at its end that the
next source could make an action of. -/
structure Composable (source : String) : Prop where
  not_opening : ¬ ['{', '{', '-'] <:+: source.toList
  not_closing : ¬ ['-', '}', '}'] <:+: source.toList
  not_brace : source.toList.getLast? ≠ some '{'

lemma Composable.unmarked {source : String} {cuts : Cuts} (h : Composable source)
    (hcuts : cutText 0 source.toList = .ok cuts) : cuts.Unmarked := by
  have hsource := (cutText_eq_ok_iff.1 hcuts).1
  refine unmarked_of_source ?_ ?_
  · rw [hsource]
    exact h.not_opening
  · rw [hsource]
    exact h.not_closing

/-- **Templates compose.**  Two sources that compile and are composable compile one after the other,
to the template that gives what both give, or the fault of the first that fails.  They also compile
as the branches of a block on any pipeline that is valid at the request, and the template does what
the first does if the pipeline is true, what the second does if it is not, and fails with the fault
of the pipeline if that fails. -/
theorem execute_composes {a b : String} {ta tb : Template} (ha : compile a = .ok ta)
    (hb : compile b = .ok tb) (hac : Composable a) (hbc : Composable b) :
    (∃ t, compile (a ++ b) = .ok t ∧
      ∀ r, t.execute r = do return (← ta.execute r) ++ (← tb.execute r)) ∧
    ∀ (subject : String) (p : Pipeline) (kind : Kind),
      Pipeline.read .request subject.toList = .ok (p, kind) →
      ¬ ['}', '}'] <:+: subject.toList →
      ∃ t, compile ("\x7b\x7bif " ++ subject ++ "\x7d\x7d" ++ a ++ "\x7b\x7belse\x7d\x7d" ++ b ++
          "\x7b\x7bend\x7d\x7d") = .ok t ∧
        ∀ r, t.execute r =
          match p.eval (.request r) with
          | .error e => .error e
          | .ok v => if v.isTrue then ta.execute r else tb.execute r := by
  obtain ⟨cutsA, hcutsA, hbodyA⟩ := exists_cuts_of_compile ha
  obtain ⟨cutsB, hcutsB, hbodyB⟩ := exists_cuts_of_compile hb
  have hA := hac.unmarked hcutsA
  have hB := hbc.unmarked hcutsB
  refine ⟨?_, fun subject p kind hread hclosing => ?_⟩
  · obtain ⟨z, hz, hrender⟩ := hA.ofPieces_append hB hbodyA hbodyB
    refine ⟨⟨a ++ b, z⟩, compile_of_cuts ?_ hz, fun r => ?_⟩
    · rw [String.toList_append]
      exact cutText_append hcutsA hcutsB hac.not_brace
    · rw [execute_eq_render, execute_eq_render, execute_eq_render, hrender]
      cases ta.body.render (.request r) with
      | error e => rfl
      | ok s => cases tb.body.render (.request r) <;> rfl
  · obtain ⟨rest, hopens, hrest⟩ := ofBody_opening hread
    have hcuts := cutText_block (shut_opening hread hclosing) hcutsA hac.not_brace hcutsB
      hbc.not_brace
    have hbody := ofPieces_block hopens hrest hbodyA hbodyB
    rw [← Cuts.pieces_block (unmarked_opening hread) hA hB] at hbody
    refine ⟨_, compile_of_cuts ?_ hbody, fun r => ?_⟩
    · convert hcuts using 2
      simp [opening]
    · rw [execute_eq_render, execute_eq_render, execute_eq_render, Body.render]
      cases p.eval (.request r) with
      | error e => rfl
      | ok v => exact joined_ok_empty _

/-- A block on a header whose name ends in a dash, around a part that fails without a caller and a
part that is the same for all requests. -/
theorem execute_composes_around_constant :
    let a := "plan \x7b\x7b.Identity.Plan\x7d\x7d"
    let b := "\x7b\x7b/* no plan */\x7d\x7d-"
    let block := "\x7b\x7bif .Header.X-\x7d\x7d" ++ a ++ "\x7b\x7belse\x7d\x7d" ++ b ++
      "\x7b\x7bend\x7d\x7d"
    let request := Request.make "GET" "/"
    let device := request.withIdentity { Identity.device "d" with plan := some "gold" }
    (∃ t, compile (a ++ b) = .ok t ∧ t.execute device = .ok "plan gold-" ∧
      t.execute request = .error (.nilField "Plan")) ∧
    ∃ t, compile block = .ok t ∧ t.execute request = .ok "-" ∧
      t.execute (request.withHeader "X-" "1") = .error (.nilField "Plan") ∧
      t.execute (device.withHeader "X-" "1") = .ok "plan gold" := by
  intro a b block request device
  let ta : Template := ⟨a, .text "plan " (.print (.path ["Identity", "Plan"]) .done)⟩
  let tb : Template := ⟨b, .text "-" .done⟩
  have ha : compile a = .ok ta := by decide +kernel
  have hb : compile b = .ok tb := by decide +kernel
  have hac : Composable a := ⟨by decide +kernel, by decide +kernel, by decide +kernel⟩
  have hbc : Composable b := ⟨by decide +kernel, by decide +kernel, by decide +kernel⟩
  have hread : Pipeline.read .request ".Header.X-".toList =
      .ok (.path ["Header", "X-"], .text) := by
    decide +kernel
  obtain ⟨⟨t, hcompile, ht⟩, hblocks⟩ := execute_composes ha hb hac hbc
  obtain ⟨t', hcompile', ht'⟩ := hblocks ".Header.X-" _ _ hread (by decide +kernel)
  refine ⟨⟨t, hcompile, ?_, ?_⟩, t', hcompile', ?_, ?_, ?_⟩
  · exact (ht device).trans (by decide +kernel)
  · exact (ht request).trans (by decide +kernel)
  · exact (ht' request).trans (by decide +kernel)
  · exact (ht' (request.withHeader "X-" "1")).trans (by decide +kernel)
  · exact (ht' (device.withHeader "X-" "1")).trans (by decide +kernel)

end Admission.Template
