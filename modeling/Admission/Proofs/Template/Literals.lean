/-
# Texts written as literals

Every text can be put between quotes, with a backslash before its quotes and backslashes and in
place of its line ends and tabs (`quotes_escaped`).  An action that prints such a literal gives the
text back, whatever characters it has, unless there are closing braces in it: braces are not
escaped, so the action ends there, and what is left of it is no literal any more
(`literal_gives_text_back`).
-/
import Admission.Proofs.Template.Composition
import Admission.Proofs.Template.Faults
import Admission.Proofs.Template.Splitting

namespace Admission.Template

open Text

/-! ## Escaping -/

/-- How a character is written between quotes. -/
def escaped : Char → List Char
  | '"' => ['\\', '"']
  | '\\' => ['\\', '\\']
  | '\n' => ['\\', 'n']
  | '\t' => ['\\', 't']
  | c => [c]

/-- A text in quotes. -/
def quoted (cs : List Char) : List Char :=
  '"' :: (cs.flatMap escaped ++ ['"'])

lemma escaped_cases (c : Char) :
    (escaped c = [c] ∧ c ≠ '"' ∧ c ≠ '\\') ∨ ∃ d, escaped c = ['\\', d] ∧ Escape d c := by
  rw [escaped.eq_def]
  split
  · exact .inr ⟨_, rfl, .quote⟩
  · exact .inr ⟨_, rfl, .backslash⟩
  · exact .inr ⟨_, rfl, .newline⟩
  · exact .inr ⟨_, rfl, .tab⟩
  · rename_i hquote hbackslash _ _
    exact .inl ⟨rfl, hquote, hbackslash⟩

lemma Escape.ne_brace {d c : Char} (h : Escape d c) : d ≠ '}' ∧ c ≠ '}' := by
  cases h <;> decide

/-- What is escaped stands for what it was. -/
lemma quotes_escaped (cs : List Char) : Quotes (cs.flatMap escaped) cs := by
  induction cs with
  | nil => exact .nil
  | cons c cs ih =>
    rw [List.flatMap_cons]
    rcases escaped_cases c with ⟨hc, hquote, hbackslash⟩ | ⟨d, hc, hescape⟩
    · rw [hc]
      exact .cons hquote hbackslash ih
    · rw [hc]
      exact .escape hescape ih

/-- A quote inside of what is escaped belongs to an escape, so nothing can end before it. -/
lemma not_quotes_of_escaped {cs inside rest : List Char}
    (h : cs.flatMap escaped = inside ++ '"' :: rest) (text : List Char) : ¬ Quotes inside text := by
  induction cs generalizing inside text with
  | nil => exact absurd h (by simp)
  | cons c cs ih =>
    intro hquotes
    rw [List.flatMap_cons] at h
    rcases escaped_cases c with ⟨hc, hquote, hbackslash⟩ | ⟨d, hc, hescape⟩
    · rw [hc] at h
      cases hquotes with
      | nil => exact hquote (List.cons.inj h).1
      | cons _ _ hmore => exact ih (List.cons.inj h).2 _ hmore
      | escape _ _ => exact hbackslash (List.cons.inj h).1
    · rw [hc] at h
      cases hquotes with
      | nil => exact absurd (List.cons.inj h).1 (by decide)
      | cons _ hne _ => exact hne (List.cons.inj h).1.symm
      | escape _ hmore => exact ih (List.cons.inj (List.cons.inj h).2).2 _ hmore

/-- Escaping moves no braces together or apart. -/
lemma pair_isInfix_escaped_append_iff {cs after : List Char} (hafter : after.head? ≠ some '}') :
    ['}', '}'] <:+: cs.flatMap escaped ++ after ↔ ['}', '}'] <:+: cs ∨ ['}', '}'] <:+: after := by
  have hhead (cs : List Char) :
      (cs.flatMap escaped ++ after).head? = some '}' ↔ cs.head? = some '}' := by
    cases cs with
    | nil => simpa using hafter
    | cons c cs =>
      rcases escaped_cases c with ⟨hc, -⟩ | ⟨d, hc, hescape⟩
      · simp [hc]
      · simp [hc, hescape.ne_brace.2]
  induction cs with
  | nil => simp
  | cons c cs ih =>
    rw [List.flatMap_cons, List.append_assoc, pair_isInfix_cons_iff]
    rcases escaped_cases c with ⟨hc, -⟩ | ⟨d, hc, hescape⟩
    · rw [hc, List.singleton_append, pair_isInfix_cons_iff, hhead, or_assoc]
      exact or_congr_right ih
    · obtain ⟨hd, hc'⟩ := hescape.ne_brace
      rw [hc, List.cons_append, List.cons_append, List.nil_append, pair_isInfix_cons_iff,
        pair_isInfix_cons_iff]
      simpa [hd, hc'] using ih

/-! ## Literals without closing braces -/

section literal

variable {cs : List Char}

lemma head?_quoted (cs : List Char) : (quoted cs).head? = some '"' := rfl

lemma getLast?_quoted (cs : List Char) : (quoted cs).getLast? = some '"' := by
  rw [quoted, ← List.cons_append, List.getLast?_concat]

lemma shut_quoted_iff : Shut (quoted cs) ↔ ¬ ['}', '}'] <:+: cs := by
  have hafter : ¬ ['}', '}'] <:+: ['"', '}'] := by decide
  rw [Shut, quoted, List.cons_append, List.append_assoc, pair_isInfix_cons_iff,
    pair_isInfix_escaped_append_iff (by decide)]
  simp [hafter]

lemma unmarked_quoted (cs : List Char) : Unmarked (quoted cs) := by
  refine unmarked_of_ends (by simp [head?_quoted]) fun d _ hlast => ?_
  obtain ⟨front, hfront⟩ := hlast
  have hdash : (quoted cs).getLast? = some '-' := by
    rw [← hfront]
    simp
  rw [getLast?_quoted] at hdash
  exact absurd hdash (by decide)

lemma trim_quoted (cs : List Char) : trim (quoted cs) = quoted cs := by
  have htrim := @trim_between (quoted cs) [] [] '"' '"' (by simp) (by simp) (head?_quoted cs)
    (by decide) (getLast?_quoted cs) (by decide)
  simpa using htrim

lemma written_quoted (cs : List Char) :
    Pipeline.Written .request (.literal (String.ofList cs)) (quoted cs) .text :=
  .literal (quotes_escaped cs)

lemma ofPieces_ofAction_quoted (cs : List Char) :
    Body.ofPieces (Cuts.ofAction (quoted cs)).pieces =
      .ok (.print (.literal (String.ofList cs)) .done) := by
  have hpieces : (Cuts.ofAction (quoted cs)).pieces = [.action (quoted cs)] := by
    rw [(unmarked_quoted cs).ofAction.pieces_eq]
    simp [Cuts.ofAction, actionPieces, trim_quoted, textPieces]
  have hvalue := written_quoted cs
  rw [← trim_quoted cs] at hvalue
  rw [hpieces, ofPieces_eq_ok_iff]
  exact foldlM_step_of_derives (.print hvalue (.inl rfl) .done) .start rfl

end literal

/-! ## Literals with closing braces -/

section torn

variable {cs inside front rest : List Char}

/-- The action ends at the first closing braces, so before the quote that closes the literal. -/
lemma isPrefix_of_torn (h : ['}', '}'] <:+: cs) (hshut : Shut inside)
    (hparts : quoted cs ++ ['}', '}'] = inside ++ rest) :
    inside <+: '"' :: cs.flatMap escaped := by
  have hquoted : '"' :: cs.flatMap escaped <+: quoted cs ++ ['}', '}'] :=
    ⟨['"', '}', '}'], by simp [quoted]⟩
  rcases List.prefix_or_prefix_of_prefix ⟨rest, hparts.symm⟩ hquoted with hinside | hinside
  · exact hinside
  · -- otherwise there would be closing braces inside of the action
    have hescaped : ['}', '}'] <:+: cs.flatMap escaped ++ [] :=
      (pair_isInfix_escaped_append_iff (by simp)).2 (.inl h)
    rw [List.append_nil] at hescaped
    have hwithin : ['}', '}'] <:+: inside := (List.infix_cons hescaped).trans hinside.isInfix
    exact absurd (hwithin.trans (List.prefix_append inside ['}']).isInfix) hshut

/-- What an action keeps of a torn literal. -/
lemma trim_withoutMarks_isPrefix (h : inside <+: '"' :: cs) :
    trim (withoutMarks inside) <+: '"' :: cs := by
  have hmarks : withoutMarks inside <+: inside := by
    have hbefore : ¬ MarkedBefore inside := by
      rintro ⟨d, -, hdash⟩
      have hhead := List.cons_prefix_cons.1 (hdash.trans h)
      exact absurd hhead.1 (by decide)
    rw [withoutMarks, if_neg hbefore]
    split
    · exact List.dropLast_prefix inside
    · exact List.prefix_rfl
  have hstart : trimStart (withoutMarks inside) = withoutMarks inside :=
    trimStart_eq_self_of_prefix (hmarks.trans h) (trimStart_cons_of_not_blank _ (by decide))
  rw [trim, hstart]
  exact (trimEnd_isPrefix _).trans (hmarks.trans h)

/-- The quote at the start of a torn literal is never closed. -/
lemma not_written_of_torn (h : front <+: '"' :: cs.flatMap escaped) (dot kind : Kind)
    (p : Pipeline) : ¬ p.Written dot front kind := by
  intro hwritten
  cases hwritten with
  | dot => exact absurd (List.cons_prefix_cons.1 h).1 (by decide)
  | @literal inside text hquotes =>
    obtain ⟨rest, hrest⟩ := (List.cons_prefix_cons.1 h).2
    have hescaped : cs.flatMap escaped = inside ++ '"' :: rest := by
      simpa using hrest.symm
    exact not_quotes_of_escaped hescaped text hquotes
  | @path names _ hne _ =>
    obtain ⟨name, more, rfl⟩ := List.exists_cons_of_ne_nil hne
    exact absurd (List.cons_prefix_cons.1 h).1 (by decide)

/-- A template does not start with a torn literal. -/
lemma not_derives_of_torn (h : trim inside <+: '"' :: cs.flatMap escaped) (dot : Kind)
    (pieces : List Piece) (b : Body) :
    ¬ Derives dot (uncommented (.action (trim inside) :: pieces)) b := by
  have hfirst (c : Char) (rest : List Char) (hc : trim inside = c :: rest) : c = '"' :=
    (List.cons_prefix_cons.1 (hc ▸ h)).1
  have hcomment : ¬ (Piece.action (trim inside)).IsComment := by
    rintro ⟨⟨rest, hrest⟩, -⟩
    exact absurd (hfirst '/' _ hrest.symm) (by decide)
  have hopens (block : Block) (subject : List Char) : ¬ Opens block (trim inside) subject := by
    rintro ⟨rest, hrest, -⟩
    cases block with
    | test => exact absurd (hfirst 'i' _ hrest) (by decide)
    | focus => exact absurd (hfirst 'w' _ hrest) (by decide)
  rw [uncommented_cons_of_not hcomment]
  intro hderives
  generalize uncommented pieces = items at hderives
  cases hderives with
  | print hvalue => exact not_written_of_torn h _ _ _ (trim_trim inside ▸ hvalue)
  | block h => exact hopens _ _ h
  | blockElse h => exact hopens _ _ h

end torn

/-- **A literal gives its text back.**  Between quotes every text can be written, and an action that
prints it there compiles to a template that is not constant and gives that very text for every
request, if there are no closing braces in the text.  If there are, the action ends at them inside
of the quotes, and the source does not compile. -/
theorem literal_gives_text_back (s : String) :
    let source := "\x7b\x7b" ++ String.ofList (quoted s.toList) ++ "\x7d\x7d"
    (¬ ['}', '}'] <:+: s.toList →
      ∃ t, compile source = .ok t ∧ t.constant = none ∧ ∀ r, t.execute r = .ok s) ∧
    (['}', '}'] <:+: s.toList → ∃ e, compile source = .error e) := by
  intro source
  have hsource : source.toList = '{' :: '{' :: (quoted s.toList ++ ['}', '}']) := by
    simp [source]
  clear_value source
  constructor
  · intro h
    have hcuts : cutText 0 source.toList = .ok (.ofAction (quoted s.toList)) :=
      hsource ▸ cutText_action (shut_quoted_iff.2 h)
    have hbody : Body.ofPieces (Cuts.ofAction (quoted s.toList)).pieces =
        .ok (.print (.literal s) .done) := by
      simpa using ofPieces_ofAction_quoted s.toList
    refine ⟨_, compile_of_cuts hcuts hbody, rfl, fun r => ?_⟩
    exact (execute_eq_render _ r).trans (joined_ok_empty (.ok s))
  · intro h
    cases hcompile : compile source with
    | error e => exact ⟨e, rfl⟩
    | ok t =>
      obtain ⟨cuts, hcuts, hbody⟩ := exists_cuts_of_compile hcompile
      rw [hsource, cutText, if_pos ⟨rfl, rfl⟩, map_eq_ok_iff] at hcuts
      obtain ⟨⟨inside, after⟩, haction, rfl⟩ := hcuts
      obtain ⟨hparts, hshut, -⟩ := leftmost_of_cutText.2 _ _ _ _ _ haction
      have htorn := trim_withoutMarks_isPrefix (isPrefix_of_torn h hshut hparts)
      have hpieces : Cuts.pieces ⟨[], (inside, after.head) :: after.actions⟩ =
          .action (trim (withoutMarks inside)) ::
            itemisedFrom (some inside) after.head after.actions := by
        rw [Cuts.pieces_eq]
        simp [Cuts.itemised, itemisedFrom, between, textPieces, trimEnd]
      exact absurd (derives_of_ofPieces (hpieces ▸ hbody)) (not_derives_of_torn htorn _ _ _)

/-- A text that looks like a comment with a mark and a brace behind it, and one with closing braces
behind a blank and a dash. -/
theorem literal_gives_comment_back :
    (∃ t, compile "\x7b\x7b\"/* \\\"\\\\\\n\\t */ -\x7d\"\x7d\x7d" = .ok t ∧ t.constant = none ∧
      ∀ r, t.execute r = .ok "/* \"\\\n\t */ -\x7d") ∧
    ∃ e, compile "\x7b\x7b\"a -\x7d\x7d\"\x7d\x7d" = .error e := by
  have hcomment : "\x7b\x7b\"/* \\\"\\\\\\n\\t */ -\x7d\"\x7d\x7d" =
      "\x7b\x7b" ++ String.ofList (quoted "/* \"\\\n\t */ -\x7d".toList) ++ "\x7d\x7d" := by
    decide +kernel
  have hbraces : "\x7b\x7b\"a -\x7d\x7d\"\x7d\x7d" =
      "\x7b\x7b" ++ String.ofList (quoted "a -\x7d\x7d".toList) ++ "\x7d\x7d" := by
    decide +kernel
  obtain ⟨t, ht, hgives⟩ := (literal_gives_text_back "/* \"\\\n\t */ -\x7d").1 (by decide +kernel)
  obtain ⟨e, he⟩ := (literal_gives_text_back "a -\x7d\x7d").2 (by decide +kernel)
  exact ⟨⟨t, (congrArg compile hcomment).trans ht, hgives⟩, e, (congrArg compile hbraces).trans he⟩

end Admission.Template
