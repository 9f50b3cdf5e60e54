/-
# The grammar of pipelines

A pipeline is written as a dot, as a text in quotes with backslashes before some of its characters,
or as field names with a dot before each of them.  `Pipeline.Written` is this grammar, with the
kinds that the fields lead through, and `Pipeline.Misread` says what is wrong with any other text,
where the leftmost bad name or missing field is what counts.  Reading follows the two of them
exactly (`read_iff`).
-/
import Admission.Template.Pipeline
import Admission.Proofs.Outcomes
import Admission.Proofs.Text.Parts
import Admission.Proofs.Text.Trimming

namespace Admission.Template

open Text

/-! ## Texts in quotes -/

/-- A backslash and the first character stand for the second one. -/
inductive Escape : Char → Char → Prop
  | quote : Escape '"' '"'
  | backslash : Escape '\\' '\\'
  | newline : Escape 'n' '\n'
  | tab : Escape 't' '\t'

/-- What stands between quotes stands for a text: quotes and backslashes come with a backslash
before them only, and with a backslash come no characters but those of `Escape`. -/
inductive Quotes : List Char → List Char → Prop
  | nil : Quotes [] []
  | cons {c : Char} {cs text : List Char} (hquote : c ≠ '"') (hbackslash : c ≠ '\\')
    (h : Quotes cs text) : Quotes (c :: cs) (c :: text)
  | escape {d e : Char} {cs text : List Char} (hescape : Escape d e) (h : Quotes cs text) :
    Quotes ('\\' :: d :: cs) (e :: text)

lemma unescape_eq_some_iff {d e : Char} : unescape d = some e ↔ Escape d e := by
  constructor
  · intro h
    simp only [unescape] at h
    split at h <;> cases h <;> constructor
  · rintro ⟨⟩ <;> rfl

lemma quotes_of_unquote {cs text : List Char} (h : unquote cs = some text) : Quotes cs text := by
  fun_induction unquote cs generalizing text with
  | case1 =>
    obtain rfl := Option.some.inj h
    exact .nil
  | case2 c hc => exact absurd h (by simp)
  | case3 c hc =>
    rw [not_or] at hc
    obtain rfl := Option.some.inj h
    exact .cons hc.2 hc.1 .nil
  | case4 d cs e rest hrest hescape ih =>
    obtain rfl := Option.some.inj h
    exact .escape (unescape_eq_some_iff.1 hescape) (ih hrest)
  | case5 d cs hnone ih => exact absurd h (by simp)
  | case6 d cs _ => exact absurd h (by simp)
  | case7 c d cs hbackslash hquote ih =>
    obtain ⟨rest, hrest, rfl⟩ := Option.map_eq_some_iff.1 h
    exact .cons hquote hbackslash (ih hrest)

lemma unquote_of_quotes {cs text : List Char} (h : Quotes cs text) : unquote cs = some text := by
  induction h with
  | nil => rfl
  | @cons c cs text hquote hbackslash _ ih =>
    cases cs with
    | nil =>
      obtain rfl : [] = text := by simpa [unquote] using ih
      simp [unquote, hquote, hbackslash]
    | cons d cs => simp [unquote, hquote, hbackslash, ih]
  | escape hescape _ ih => simp [unquote, unescape_eq_some_iff.2 hescape, ih]

lemma unquote_eq_some_iff {cs text : List Char} : unquote cs = some text ↔ Quotes cs text :=
  ⟨quotes_of_unquote, unquote_of_quotes⟩

lemma insideQuotes?_eq_some_iff {text inside : List Char} :
    insideQuotes? text = some inside ↔ text = '"' :: (inside ++ ['"']) := by
  rw [insideQuotes?.eq_def]
  split
  · rw [beforeEnd?_eq_some_iff, List.cons.injEq, and_iff_right rfl]
  · rename_i hquote
    refine iff_of_false (by simp) ?_
    rintro rfl
    exact hquote _ rfl

/-! ## Fields -/

/-- A field name is not empty and consists of ASCII letters and digits, underscores and dashes. -/
def FieldName (name : List Char) : Prop :=
  name ≠ [] ∧ ∀ c ∈ name, c.isAlphanum = true ∨ c = '_' ∨ c = '-'

lemma isFieldName_iff {name : List Char} : isFieldName name = true ↔ FieldName name := by
  simp [isFieldName, isFieldChar, FieldName, or_assoc]

lemma FieldName.dot_notMem {name : List Char} (h : FieldName name) : '.' ∉ name :=
  fun hdot => absurd (h.2 '.' hdot) (by decide)

/-- The names are field names that lead from a value of the first kind to one of the second kind. -/
inductive Leads : Kind → List (List Char) → Kind → Prop
  | nil {kind : Kind} : Leads kind [] kind
  | cons {kind inner last : Kind} {name : List Char} {names : List (List Char)}
    (hname : FieldName name) (hfield : kind.field (String.ofList name) = some inner)
    (h : Leads inner names last) : Leads kind (name :: names) last

lemma Leads.fieldName {kind last : Kind} {names : List (List Char)} (h : Leads kind names last) :
    ∀ name ∈ names, FieldName name := by
  induction h with
  | nil => simp
  | cons hname _ _ ih => exact List.forall_mem_cons.2 ⟨hname, ih⟩

/-- A dot stands in no part if it stands in none from the first one on that cannot be followed. -/
lemma Leads.dot_notMem {kind last : Kind} {names more : List (List Char)}
    (h : Leads kind names last) (hmore : ∀ part ∈ more, '.' ∉ part) :
    ∀ part ∈ names ++ more, '.' ∉ part :=
  List.forall_mem_append.2 ⟨fun name hname => (h.fieldName name hname).dot_notMem, hmore⟩

section readPath

variable {whole : String} {kind last : Kind} {names : List (List Char)}

/-- Reading goes on behind names that can be followed. -/
lemma readPath_append (h : Leads kind names last) (more : List (List Char)) :
    readPath whole kind (names ++ more) = (readPath whole last more).map fun (fields, inner) =>
      (names.map String.ofList ++ fields, inner) := by
  induction h with
  | nil =>
    rw [List.nil_append]
    cases readPath whole _ more <;> rfl
  | cons hname hfield _ ih =>
    rw [List.cons_append, readPath, if_pos (isFieldName_iff.2 hname)]
    simp only [hfield, ih]
    cases readPath whole _ more <;> rfl

lemma readPath_of_leads (h : Leads kind names last) :
    readPath whole kind names = .ok (names.map String.ofList, last) := by
  have hread : readPath whole kind (names ++ []) = _ := readPath_append h []
  rw [List.append_nil, readPath] at hread
  simpa [Except.map] using hread

/-- A bad name is reported with the whole pipeline. -/
lemma readPath_of_bad_name {bad : List Char} (h : Leads kind names last) (hbad : ¬ FieldName bad)
    (more : List (List Char)) :
    readPath whole kind (names ++ bad :: more) = .error (.badPipeline whole) := by
  rw [readPath_append h, readPath, if_neg (isFieldName_iff.not.2 hbad)]
  rfl

lemma readPath_of_missing_field {bad : List Char} (h : Leads kind names last)
    (hbad : FieldName bad) (hfield : last.field (String.ofList bad) = none)
    (more : List (List Char)) :
    readPath whole kind (names ++ bad :: more) =
      .error (.unknownField (String.ofList bad) last) := by
  rw [readPath_append h, readPath, if_pos (isFieldName_iff.2 hbad)]
  simp only [hfield]
  rfl

/-- Names can be followed to the end, or up to a bad name or a missing field. -/
lemma leads_or_stops (kind : Kind) (names : List (List Char)) :
    (∃ last, Leads kind names last) ∨ ∃ front bad more last, names = front ++ bad :: more ∧
      Leads kind front last ∧ (FieldName bad → last.field (String.ofList bad) = none) := by
  induction names generalizing kind with
  | nil => exact .inl ⟨kind, .nil⟩
  | cons name names ih =>
    by_cases hname : FieldName name
    · cases hfield : kind.field (String.ofList name) with
      | none => exact .inr ⟨[], name, names, kind, rfl, .nil, fun _ => hfield⟩
      | some inner =>
        rcases ih inner with ⟨last, h⟩ | ⟨front, bad, more, last, rfl, h, hbad⟩
        · exact .inl ⟨last, .cons hname hfield h⟩
        · exact .inr ⟨name :: front, bad, more, last, rfl, .cons hname hfield h, hbad⟩
    · exact .inr ⟨[], name, names, kind, rfl, .nil, fun h => absurd h hname⟩

end readPath

/-! ## Pipelines -/

/-- The text is a pipeline where the current value is of kind `dot`, and `kind` is the kind of its
value. -/
inductive Pipeline.Written (dot : Kind) : Pipeline → List Char → Kind → Prop
  | dot : Written dot .dot ['.'] dot
  | literal {inside text : List Char} (h : Quotes inside text) :
    Written dot (.literal (String.ofList text)) ('"' :: (inside ++ ['"'])) .text
  | path {names : List (List Char)} {kind : Kind} (hne : names ≠ []) (h : Leads dot names kind) :
    Written dot (.path (names.map String.ofList)) (separated '.' names) kind

/-- A pipeline starts with a dot or a quote. -/
lemma Pipeline.Written.head?_eq {dot kind : Kind} {text : List Char} {p : Pipeline}
    (h : p.Written dot text kind) : text.head? = some '.' ∨ text.head? = some '"' := by
  cases h with
  | dot => exact .inl rfl
  | literal h => exact .inr rfl
  | @path names _ hne h =>
    obtain ⟨name, more, rfl⟩ := List.exists_cons_of_ne_nil hne
    exact .inl rfl

/-- The text is no pipeline where the current value is of kind `dot`, and the fault says why: it is
quoted and an escape or a quote inside is wrong, it looks like no pipeline at all, or behind names
that can be followed there is a bad name or one that is no field. -/
inductive Pipeline.Misread (dot : Kind) : List Char → Error → Prop
  | quotes {text inside : List Char} (htext : text = '"' :: (inside ++ ['"']))
    (h : ∀ cs, ¬ Quotes inside cs) : Misread dot text (.badPipeline (String.ofList text))
  | shape {text : List Char} (hdot : text.head? ≠ some '.')
    (hquotes : ∀ inside, text ≠ '"' :: (inside ++ ['"'])) :
    Misread dot text (.badPipeline (String.ofList text))
  | name {text bad : List Char} {names more : List (List Char)} {kind : Kind}
    (htext : text = separated '.' (names ++ bad :: more)) (hdot : text ≠ ['.'])
    (hparts : ∀ part ∈ bad :: more, '.' ∉ part) (h : Leads dot names kind)
    (hbad : ¬ FieldName bad) : Misread dot text (.badPipeline (String.ofList text))
  | field {text bad : List Char} {names more : List (List Char)} {kind : Kind}
    (htext : text = separated '.' (names ++ bad :: more))
    (hparts : ∀ part ∈ bad :: more, '.' ∉ part) (h : Leads dot names kind) (hbad : FieldName bad)
    (hfield : kind.field (String.ofList bad) = none) :
    Misread dot text (.unknownField (String.ofList bad) kind)

namespace Pipeline

variable {dot kind : Kind} {source inside cs : List Char} {p : Pipeline} {e : Error}

lemma read_of_dot (h : trim source = ['.']) : read dot source = .ok (.dot, dot) := by
  rw [read]
  exact if_pos h

lemma read_of_quotes (h : trim source = '"' :: (inside ++ ['"'])) :
    read dot source = (unquote inside).elim
      (.error (.badPipeline (String.ofList (trim source)))) fun cs =>
        .ok (.literal (String.ofList cs), .text) := by
  have hdot : trim source ≠ ['.'] := by simp [h]
  rw [read]
  simp only [if_neg hdot, insideQuotes?_eq_some_iff.2 h]
  cases unquote inside <;> rfl

lemma read_of_separated {names : List (List Char)} (h : trim source = separated '.' names)
    (hdot : trim source ≠ ['.']) (hne : names ≠ []) (hparts : ∀ name ∈ names, '.' ∉ name) :
    read dot source = (readPath (String.ofList (trim source)) dot names).map
      fun (fields, kind) => (.path fields, kind) := by
  obtain ⟨name, more, rfl⟩ := List.exists_cons_of_ne_nil hne
  have hquotes : insideQuotes? (trim source) = none := by
    rw [h]
    rfl
  rw [read]
  simp only [if_neg hdot, hquotes]
  split
  · rename_i cs hcs
    have hsplit : splitOn '.' cs = name :: more :=
      splitOn_eq_iff.2 ⟨h.symm.trans hcs, hparts⟩
    rw [hsplit]
  · rename_i hcs
    exact absurd h (hcs _)

lemma read_of_other (hdot : (trim source).head? ≠ some '.')
    (hquotes : ∀ inside, trim source ≠ '"' :: (inside ++ ['"'])) :
    read dot source = .error (.badPipeline (String.ofList (trim source))) := by
  have hnone : insideQuotes? (trim source) = none :=
    Option.eq_none_iff_forall_ne_some.2 fun inside h =>
      hquotes inside (insideQuotes?_eq_some_iff.1 h)
  have hne : trim source ≠ ['.'] := by
    intro h
    exact hdot (by rw [h]; rfl)
  rw [read]
  simp only [if_neg hne, hnone]
  split
  · rename_i names hnames
    exact absurd (by rw [hnames]; rfl) hdot
  · rfl

lemma read_of_written (h : p.Written dot (trim source) kind) : read dot source = .ok (p, kind) := by
  generalize htext : trim source = text at h
  cases h with
  | dot => exact read_of_dot htext
  | literal h =>
    rw [read_of_quotes htext, unquote_of_quotes h, Option.elim_some]
  | @path names _ hne h =>
    have hdot : trim source ≠ ['.'] := by
      intro hdot
      obtain rfl := separated_eq_singleton_iff.1 (htext.symm.trans hdot)
      exact (h.fieldName [] List.mem_cons_self).1 rfl
    rw [read_of_separated htext hdot hne fun name hname => (h.fieldName name hname).dot_notMem,
      readPath_of_leads h]
    rfl

lemma read_of_misread (h : Misread dot (trim source) e) : read dot source = .error e := by
  cases h with
  | quotes htext h =>
    have hnone := Option.eq_none_iff_forall_ne_some.2 fun cs hcs => h cs (unquote_eq_some_iff.1 hcs)
    rw [read_of_quotes htext, hnone, Option.elim_none]
  | shape hdot hquotes => exact read_of_other hdot hquotes
  | name htext hdot hparts h hbad =>
    rw [read_of_separated htext hdot (by simp) (h.dot_notMem hparts), readPath_of_bad_name h hbad]
    rfl
  | @field bad names more _ htext hparts h hbad hfield =>
    have hdot : trim source ≠ ['.'] := by
      intro hdot
      have hparts := separated_eq_singleton_iff.1 (htext.symm.trans hdot)
      have hmem : bad ∈ [[]] := by
        rw [← hparts]
        exact List.mem_append_right names List.mem_cons_self
      exact hbad.1 (List.mem_singleton.1 hmem)
    rw [read_of_separated htext hdot (by simp) (h.dot_notMem hparts),
      readPath_of_missing_field h hbad hfield]
    rfl

/-- Every text is a pipeline or has a fault. -/
lemma written_or_misread (dot : Kind) (text : List Char) :
    (∃ (p : Pipeline) (kind : Kind), p.Written dot text kind) ∨ ∃ e, Misread dot text e := by
  -- the first character tells a path from a literal
  by_cases hdot : text.head? = some '.'
  · obtain ⟨cs, rfl⟩ := List.head?_eq_some_iff.1 hdot
    cases cs with
    | nil => exact .inl ⟨.dot, dot, .dot⟩
    | cons c cs =>
      have htext := (separated_splitOn '.' (c :: cs)).symm
      have hparts : ∀ part ∈ splitOn '.' (c :: cs), '.' ∉ part := fun _ => notMem_of_mem_splitOn
      rcases leads_or_stops dot (splitOn '.' (c :: cs)) with
        ⟨last, h⟩ | ⟨names, bad, more, last, hsplit, h, hstop⟩
      · rw [htext]
        exact .inl ⟨_, last, .path (splitOn_ne_nil _ _) h⟩
      · rw [hsplit] at htext hparts
        have hrest := (List.forall_mem_append.1 hparts).2
        by_cases hbad : FieldName bad
        · exact .inr ⟨_, .field htext hrest h hbad (hstop hbad)⟩
        · exact .inr ⟨_, .name htext (by simp) hrest h hbad⟩
  · by_cases hquotes : ∃ inside, text = '"' :: (inside ++ ['"'])
    · obtain ⟨inside, htext⟩ := hquotes
      by_cases h : ∃ cs, Quotes inside cs
      · obtain ⟨cs, hcs⟩ := h
        rw [htext]
        exact .inl ⟨_, _, .literal hcs⟩
      · exact .inr ⟨_, .quotes htext fun cs hcs => h ⟨cs, hcs⟩⟩
    · exact .inr ⟨_, .shape hdot fun inside htext => hquotes ⟨inside, htext⟩⟩

/-- Reading is described by the two relations. -/
lemma read_iff (dot : Kind) (source : List Char) :
    (∀ result, read dot source = .ok result ↔ result.1.Written dot (trim source) result.2) ∧
      ∀ e, read dot source = .error e ↔ Misread dot (trim source) e := by
  refine outcome_iff (fun _ => read_of_written) (fun _ => read_of_misread) ?_
  rcases written_or_misread dot (trim source) with ⟨p, kind, hwritten⟩ | hmisread
  · exact .inl ⟨(p, kind), hwritten⟩
  · exact .inr hmisread

lemma read_eq_ok_iff : read dot source = .ok (p, kind) ↔ p.Written dot (trim source) kind :=
  (read_iff dot source).1 (p, kind)

end Pipeline

end Admission.Template
