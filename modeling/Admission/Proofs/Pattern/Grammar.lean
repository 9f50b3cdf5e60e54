/-
# The grammar of API patterns

A pattern is written as a path, or as a method, blanks and a path.  A path consists of words and
wildcards with a slash before each of them, and it may end with a slash or with a wildcard for the
rest.  `Form` is a pattern taken apart in this way, and only what can be written is one.

`Misread` says what is wrong with any other text: the method, the start of the path, or the leftmost
part that cannot stand where it does.  Reading a text follows the two of them exactly
(`read_follows_grammar`).
-/
import Admission.Pattern.Reading
import Admission.Proofs.Outcomes
import Admission.Proofs.Text.Letters
import Admission.Proofs.Text.Parts
import Admission.Proofs.Text.Trimming

namespace Admission.Pattern

open Text

/-! ## Patterns as they are written -/

/-- The method of a pattern is a word of ASCII letters. -/
structure Method where
  /-- The letters. -/
  chars : List Char
  ne_nil : chars ≠ []
  isAlpha : ∀ c ∈ chars, c.isAlpha = true

/-- A word of a path holds no slash and nothing that is special to wildcards. -/
structure Word where
  /-- The characters. -/
  chars : List Char
  ne_nil : chars ≠ []
  plain : ∀ c ∈ chars, c ∉ ['/', '{', '}', '*']

/-- The name of a wildcard consists of ASCII letters, digits and underscores. -/
structure Name where
  /-- The characters. -/
  chars : List Char
  ne_nil : chars ≠ []
  isNameChar : ∀ c ∈ chars, c.isAlphanum = true ∨ c = '_'

/-- What stands for one segment of a path. -/
inductive Term where
  /-- A word stands for itself. -/
  | word (w : Word)
  /-- A star stands for any segment. -/
  | star
  /-- A name in braces stands for any segment. -/
  | named (name : Name)

/-- How a path ends. -/
inductive Ending where
  /-- Behind its last term. -/
  | closed
  /-- With a slash. -/
  | slash
  /-- With a name in braces that is followed by three dots. -/
  | rest (name : Name)

/-- A pattern as it is written. -/
structure Form where
  /-- The method, if there is one. -/
  method : Option Method
  /-- The words and wildcards. -/
  terms : List Term
  /-- The end of the path. -/
  ending : Ending
  /-- Some slash has to be there. -/
  terms_ne_nil : ending = .closed → terms ≠ []

/-- The wildcard for the rest of a path. -/
def Name.rest (name : Name) : List Char :=
  '{' :: (name.chars ++ ['.', '.', '.', '}'])

/-- How a term is written. -/
def Term.text : Term → List Char
  | .word w => w.chars
  | .star => ['*']
  | .named name => '{' :: (name.chars ++ ['}'])

/-- The part of a path that its end is written with. -/
def Ending.parts : Ending → List (List Char)
  | .closed => []
  | .slash => [[]]
  | .rest name => [name.rest]

/-- The path of a pattern: its parts, with a slash before each. -/
def Form.path (form : Form) : List Char :=
  separated '/' (form.terms.map Term.text ++ form.ending.parts)

/-- The text is a path without blanks, or a method, blanks and a path. -/
inductive Splits : Option Method → List Char → List Char → Prop
  | bare {path : List Char} (h : ∀ c ∈ path, isBlank c = false) : Splits none path path
  | method {method : Method} {gap path : List Char} (hne : gap ≠ [])
    (hgap : ∀ c ∈ gap, isBlank c = true) (hpath : ∀ c ∈ path.head?, isBlank c = false) :
    Splits (some method) path (method.chars ++ gap ++ path)

/-- The pattern is written like this. -/
def Form.Spells (form : Form) (text : List Char) : Prop :=
  Splits form.method form.path text

/-- The segment that a term stands for. -/
def Term.segment : Term → Segment
  | .word w => .word (String.ofList w.chars)
  | .star | .named _ => .wildcard

/-- Only a closed pattern takes no longer paths. -/
def Ending.isOpen : Ending → Bool
  | .closed => false
  | .slash | .rest _ => true

/-- The pattern that is meant. -/
def Form.pattern (form : Form) (source : String) : Pattern :=
  ⟨source, form.method.map fun method => upper (String.ofList method.chars),
    form.terms.map Term.segment, form.ending.isOpen⟩

/-! ## Faults -/

/-- The part is neither a term nor a wildcard for the rest of the path. -/
structure Malformed (part : List Char) : Prop where
  ne_nil : part ≠ []
  not_term : ∀ term : Term, part ≠ term.text
  not_rest : ∀ name : Name, part ≠ name.rest

/-- The parts up to the first one that is at fault are terms, and the fault says why this one is
not in order: it is empty or a wildcard for the rest but not the last part, or it is malformed. -/
inductive PartsMisread (source : String) : List (List Char) → Error → Prop
  | empty {terms : List Term} {more : List (List Char)} (hmore : more ≠ []) :
    PartsMisread source (terms.map Term.text ++ [] :: more) (.emptySegment source)
  | malformed {terms : List Term} {part : List Char} {more : List (List Char)}
    (h : Malformed part) :
    PartsMisread source (terms.map Term.text ++ part :: more)
      (.badWildcard source (String.ofList part))
  | rest {terms : List Term} {name : Name} {more : List (List Char)} (hmore : more ≠ []) :
    PartsMisread source (terms.map Term.text ++ name.rest :: more) (.restNotLast source)

/-- The text is no pattern, and the fault says why: something other than letters stands before the
first blank, the path starts without a slash, or one of its parts is at fault. -/
inductive Misread (text : List Char) : Error → Prop
  | method {word rest : List Char} {c : Char} (htext : text = word ++ c :: rest)
    (hblank : isBlank c = true) (hword : ∀ d ∈ word, isBlank d = false)
    (h : ¬ ∀ d ∈ word, d.isAlpha = true) : Misread text (.invalidMethod (String.ofList text))
  | slash {method : Option Method} {path : List Char} (h : Splits method path text)
    (hpath : path.head? ≠ some '/') : Misread text (.missingLeadingSlash (String.ofList text))
  | parts {method : Option Method} {parts : List (List Char)} {e : Error}
    (h : Splits method (separated '/' parts) text) (hparts : ∀ part ∈ parts, '/' ∉ part)
    (hfault : PartsMisread (String.ofList text) parts e) : Misread text e

/-! ## Parts of a path -/

section parts

variable {part inside : List Char} {source : String} {e : Error}

lemma isName_iff : isName inside = true ↔ ∃ name : Name, name.chars = inside := by
  simp only [isName, isNameChar, Bool.and_eq_true, Bool.not_eq_true', List.isEmpty_eq_false_iff,
    List.all_eq_true, Bool.or_eq_true, beq_iff_eq]
  constructor
  · rintro ⟨hne, hchars⟩
    exact ⟨⟨inside, hne, hchars⟩, rfl⟩
  · rintro ⟨name, rfl⟩
    exact ⟨name.ne_nil, name.isNameChar⟩

lemma Name.dot_notMem (name : Name) : '.' ∉ name.chars :=
  fun hdot => absurd (name.isNameChar '.' hdot) (by decide)

lemma Name.slash_notMem (name : Name) : '/' ∉ name.chars :=
  fun hslash => absurd (name.isNameChar '/' hslash) (by decide)

lemma Name.slash_notMem_rest (name : Name) : '/' ∉ name.rest := by
  simp [Name.rest, name.slash_notMem]

lemma Term.slash_notMem (term : Term) : '/' ∉ term.text := by
  cases term with
  | word w => exact fun hslash => w.plain '/' hslash List.mem_cons_self
  | star => decide
  | named name => simp [Term.text, name.slash_notMem]

lemma Term.text_ne_nil (term : Term) : term.text ≠ [] := by
  cases term with
  | word w => exact w.ne_nil
  | star => simp [Term.text]
  | named name => simp [Term.text]

lemma insideBraces?_eq_some_iff :
    insideBraces? part = some inside ↔ part = '{' :: (inside ++ ['}']) := by
  simp [insideBraces?, Option.bind_eq_some_iff, afterStart?_eq_some_iff, beforeEnd?_eq_some_iff]

lemma read?_text (term : Term) : Part.read? term.text = some (.one term.segment) := by
  cases term with
  | word w =>
    have hstar : w.chars ≠ ['*'] := by
      intro h
      exact absurd (w.plain '*' (by simp [h])) (by decide)
    have hplain : w.chars.any isSpecial = false := by
      rw [List.any_eq_false]
      intro c hc hspecial
      refine w.plain c hc ?_
      simp only [isSpecial, Bool.or_eq_true, beq_iff_eq] at hspecial
      simp only [List.mem_cons, List.not_mem_nil, or_false]
      tauto
    rw [Term.text, Part.read?, if_neg hstar, hplain]
    rfl
  | star => rfl
  | named name =>
    have hdots : beforeEnd? ['.', '.', '.'] name.chars = none := by
      refine Option.eq_none_iff_forall_ne_some.2 fun front h => name.dot_notMem ?_
      rw [beforeEnd?_eq_some_iff.1 h]
      simp
    have hname : isName name.chars = true := isName_iff.2 ⟨name, rfl⟩
    have hbraces : insideBraces? ('{' :: (name.chars ++ ['}'])) = some name.chars :=
      insideBraces?_eq_some_iff.2 rfl
    simp [Term.text, Term.segment, Part.read?, Part.ofBraces?, hbraces, hdots, hname, isSpecial]

lemma read?_rest (name : Name) : Part.read? name.rest = some .rest := by
  have hdots : beforeEnd? ['.', '.', '.'] (name.chars ++ ['.', '.', '.']) = some name.chars :=
    beforeEnd?_eq_some_iff.2 rfl
  have hname : isName name.chars = true := isName_iff.2 ⟨name, rfl⟩
  have hbraces : insideBraces? name.rest = some (name.chars ++ ['.', '.', '.']) :=
    insideBraces?_eq_some_iff.2 (by simp [Name.rest])
  have hspecial : name.rest.any isSpecial = true := by simp [Name.rest, isSpecial]
  have hstar : name.rest ≠ ['*'] := by simp [Name.rest]
  simp [Part.read?, Part.ofBraces?, hbraces, hdots, hname, hspecial, hstar]

/-- Whatever can be read is a term or a wildcard for the rest. -/
lemma not_malformed_of_read? {p : Part} (hslash : '/' ∉ part) (h : Part.read? part = some p) :
    ¬ Malformed part := by
  intro hmalformed
  rw [Part.read?] at h
  split at h
  · rename_i hstar
    exact hmalformed.not_term .star hstar
  split at h
  · rw [Part.ofBraces?] at h
    split at h
    · cases h
    rename_i inside hinside
    obtain rfl := insideBraces?_eq_some_iff.1 hinside
    split at h
    · -- three dots stand before the closing brace
      rename_i front hdots
      split at h
      · rename_i hname
        obtain ⟨name, rfl⟩ := isName_iff.1 hname
        rw [beforeEnd?_eq_some_iff] at hdots
        exact hmalformed.not_rest name (by simp [Name.rest, hdots])
      · cases h
    · split at h
      · rename_i hname
        obtain ⟨name, rfl⟩ := isName_iff.1 hname
        exact hmalformed.not_term (.named name) rfl
      · cases h
  · rename_i hspecial
    have hplain : ∀ c ∈ part, c ∉ ['/', '{', '}', '*'] := by
      intro c hc hmem
      simp only [List.mem_cons, List.not_mem_nil, or_false] at hmem
      rcases hmem with rfl | hmem
      · exact hslash hc
      · refine hspecial (List.any_eq_true.2 ⟨c, hc, ?_⟩)
        simpa [isSpecial, or_assoc] using hmem
    exact hmalformed.not_term (.word ⟨part, hmalformed.ne_nil, hplain⟩) rfl

lemma read?_of_malformed (hslash : '/' ∉ part) (h : Malformed part) : Part.read? part = none :=
  Option.eq_none_iff_forall_ne_some.2 fun _ hread => not_malformed_of_read? hslash hread h

/-- Reading goes on behind terms. -/
lemma readParts_append (terms : List Term) (more : List (List Char)) :
    readParts source (terms.map Term.text ++ more) =
      (readParts source more).map fun (segments, isOpen) =>
        (terms.map Term.segment ++ segments, isOpen) := by
  induction terms with
  | nil => cases hmore : readParts source more <;> simp [Except.map, hmore]
  | cons term terms ih =>
    have hempty : term.text.isEmpty = false := by simp [term.text_ne_nil]
    rw [List.map_cons, List.cons_append, readParts, hempty]
    simp only [read?_text, ih]
    cases readParts source more <;> rfl

lemma readParts_ending (terms : List Term) (ending : Ending) :
    readParts source (terms.map Term.text ++ ending.parts) =
      .ok (terms.map Term.segment, ending.isOpen) := by
  have hending : readParts source ending.parts = .ok ([], ending.isOpen) := by
    cases ending with
    | closed => rfl
    | slash => rfl
    | rest name =>
      have hempty : name.rest.isEmpty = false := by simp [Name.rest]
      simp [Ending.parts, Ending.isOpen, readParts, hempty, read?_rest]
  rw [readParts_append, hending]
  simp [Except.map]

lemma readParts_of_misread {parts : List (List Char)} (hparts : ∀ part ∈ parts, '/' ∉ part)
    (h : PartsMisread source parts e) : readParts source parts = .error e := by
  cases h with
  | empty hmore => simp [readParts_append, readParts, hmore, Except.map]
  | @malformed terms part more h =>
    have hslash : '/' ∉ part := hparts part (by simp)
    have hempty : part.isEmpty = false := by simp [h.ne_nil]
    simp [readParts_append, readParts, hempty, read?_of_malformed hslash h, Except.map]
  | @rest terms name more hmore =>
    have hempty : name.rest.isEmpty = false := by simp [Name.rest]
    simp [readParts_append, readParts, hempty, read?_rest, hmore, Except.map]

/-- A part that is not empty is a term, a wildcard for the rest, or malformed. -/
lemma part_cases (hne : part ≠ []) :
    (∃ term : Term, part = term.text) ∨ (∃ name : Name, part = name.rest) ∨ Malformed part := by
  by_cases hterm : ∃ term : Term, part = term.text
  · exact .inl hterm
  by_cases hrest : ∃ name : Name, part = name.rest
  · exact .inr (.inl hrest)
  · exact .inr (.inr ⟨hne, not_exists.1 hterm, not_exists.1 hrest⟩)

lemma PartsMisread.cons {parts : List (List Char)} (h : PartsMisread source parts e)
    (term : Term) : PartsMisread source (term.text :: parts) e := by
  cases h with
  | @empty terms more hmore => exact @empty source (term :: terms) more hmore
  | @malformed terms part more h => exact @malformed source (term :: terms) part more h
  | @rest terms name more hmore => exact @rest source (term :: terms) name more hmore

/-- Parts are terms up to the end of the path, or up to a part that is at fault. -/
lemma ends_or_misread (source : String) (parts : List (List Char)) :
    (∃ (terms : List Term) (ending : Ending), parts = terms.map Term.text ++ ending.parts) ∨
      ∃ e, PartsMisread source parts e := by
  induction parts with
  | nil => exact .inl ⟨[], .closed, rfl⟩
  | cons part parts ih =>
    by_cases hne : part = []
    · by_cases hlast : parts = []
      · exact .inl ⟨[], .slash, by rw [hne, hlast]; rfl⟩
      · exact .inr ⟨_, hne ▸ @PartsMisread.empty source [] parts hlast⟩
    rcases part_cases hne with ⟨term, rfl⟩ | ⟨name, rfl⟩ | hmalformed
    · rcases ih with ⟨terms, ending, rfl⟩ | ⟨e, hmore⟩
      · exact .inl ⟨term :: terms, ending, rfl⟩
      · exact .inr ⟨e, hmore.cons term⟩
    · by_cases hlast : parts = []
      · exact .inl ⟨[], .rest name, by rw [hlast]; rfl⟩
      · exact .inr ⟨_, @PartsMisread.rest source [] name parts hlast⟩
    · exact .inr ⟨_, @PartsMisread.malformed source [] part parts hmalformed⟩

end parts

/-! ## Patterns -/

section patterns

variable {text : String} {method : Option Method} {path : List Char} {form : Form} {e : Error}

lemma isMethod_iff {word : List Char} : isMethod word = true ↔ ∃ m : Method, m.chars = word := by
  simp only [isMethod, Bool.and_eq_true, Bool.not_eq_true', List.isEmpty_eq_false_iff,
    List.all_eq_true]
  constructor
  · rintro ⟨hne, hchars⟩
    exact ⟨⟨word, hne, hchars⟩, rfl⟩
  · rintro ⟨m, rfl⟩
    exact ⟨m.ne_nil, m.isAlpha⟩

lemma Method.not_isBlank (m : Method) : ∀ c ∈ m.chars, isBlank c = false := fun c hc =>
  not_isBlank_of_isAlphanum (by simp [Char.isAlphanum, m.isAlpha c hc])

/-- What stands around the gap between method and path is found again. -/
lemma read_of_splits (h : Splits method path (trim text.toList)) :
    read text = (readPath (trimmed text) path).map fun (segments, isOpen) =>
      ⟨trimmed text, method.map fun m => upper (String.ofList m.chars), segments, isOpen⟩ := by
  rw [read, toList_trimmed]
  generalize htext : trim text.toList = whole at h
  cases h with
  | bare h =>
    rw [cutAtFirst_eq_none_iff.2 h]
    rfl
  | @method m gap path hne hgap hpath =>
    obtain ⟨c, gap, rfl⟩ := List.exists_cons_of_ne_nil hne
    rw [List.forall_mem_cons] at hgap
    have hcut : cutAtFirst isBlank (m.chars ++ c :: gap ++ path) = some (m.chars, gap ++ path) := by
      rw [List.append_assoc, List.cons_append, cutAtFirst_append m.not_isBlank hgap.1]
    have hgap : trimStart (gap ++ path) = path := by
      rw [trimStart, List.dropWhile_append_of_pos hgap.2]
      cases path with
      | nil => rfl
      | cons d path => exact trimStart_cons_of_not_blank path (hpath d rfl)
    simp only [hcut, if_pos (isMethod_iff.2 ⟨m, rfl⟩), hgap]
    rfl

/-- A text without outer blanks can be taken apart, unless it starts with something other than a
method. -/
lemma splits_or_misread {whole : List Char} (hwhole : trimStart whole = whole) :
    (∃ method path, Splits method path whole) ∨
      Misread whole (.invalidMethod (String.ofList whole)) := by
  cases hcut : cutAtFirst isBlank whole with
  | none => exact .inl ⟨none, whole, .bare (cutAtFirst_eq_none_iff.1 hcut)⟩
  | some cut =>
    obtain ⟨word, after⟩ := cut
    obtain ⟨c, rfl, hblank, hword⟩ := cutAtFirst_eq_some_iff.1 hcut
    by_cases hletters : ∀ d ∈ word, d.isAlpha = true
    · -- the first character is no blank, so there is a method before the gap
      have hne : word ≠ [] := by
        rintro rfl
        exact absurd hblank (by simp [not_isBlank_of_trimStart_eq hwhole])
      have hpath : ∀ d ∈ (trimStart after).head?, isBlank d = false := by
        intro d hd
        obtain ⟨path, hpath⟩ := List.head?_eq_some_iff.1 hd
        exact not_isBlank_of_trimStart_eq (hpath ▸ trimStart_trimStart after)
      have hwhole : word ++ c :: after =
          word ++ c :: after.takeWhile isBlank ++ trimStart after := by
        simp [trimStart]
      rw [hwhole]
      refine .inl ⟨some ⟨word, hne, hletters⟩, trimStart after, .method (by simp) ?_ hpath⟩
      exact List.forall_mem_cons.2 ⟨hblank, fun d hd => List.mem_takeWhile_imp hd⟩
    · exact .inr (.method rfl hblank hword hletters)

lemma readPath_separated {source : String} {parts : List (List Char)} (hne : parts ≠ [])
    (hparts : ∀ part ∈ parts, '/' ∉ part) :
    readPath source (separated '/' parts) = readParts source parts := by
  obtain ⟨part, more, rfl⟩ := List.exists_cons_of_ne_nil hne
  rw [separated_cons, readPath, splitOn_of_separated hne hparts separated_cons]

lemma Form.parts_ne_nil (form : Form) :
    form.terms.map Term.text ++ form.ending.parts ≠ [] := by
  rw [ne_eq, List.append_eq_nil_iff, List.map_eq_nil_iff]
  rintro ⟨hterms, hparts⟩
  cases hending : form.ending with
  | closed => exact form.terms_ne_nil hending hterms
  | slash => simp [hending, Ending.parts] at hparts
  | rest name => simp [hending, Ending.parts] at hparts

lemma Form.slash_notMem (form : Form) :
    ∀ part ∈ form.terms.map Term.text ++ form.ending.parts, '/' ∉ part := by
  refine List.forall_mem_append.2 ⟨List.forall_mem_map.2 fun term _ => term.slash_notMem, ?_⟩
  cases form.ending with
  | closed => simp [Ending.parts]
  | slash => simp [Ending.parts]
  | rest name => simp [Ending.parts, name.slash_notMem_rest]

lemma read_of_spells (h : form.Spells (trim text.toList)) :
    read text = .ok (form.pattern (trimmed text)) := by
  rw [read_of_splits h, Form.path, readPath_separated form.parts_ne_nil form.slash_notMem,
    readParts_ending]
  rfl

lemma read_of_misread (h : Misread (trim text.toList) e) : read text = .error e := by
  cases h with
  | @method word rest c htext hblank hword h =>
    have hmethod : isMethod word = false :=
      Bool.eq_false_iff.2 fun hm => h (by obtain ⟨m, rfl⟩ := isMethod_iff.1 hm; exact m.isAlpha)
    rw [read, toList_trimmed]
    simp only [htext, cutAtFirst_append hword hblank]
    simp [hmethod, trimmed, htext]
  | slash h hpath =>
    rw [read_of_splits h, readPath]
    · rfl
    · rintro rest rfl
      exact hpath rfl
  | @parts method parts e h hparts hfault =>
    have hread : readParts (trimmed text) parts = .error e := readParts_of_misread hparts hfault
    have hne : parts ≠ [] := by
      rintro rfl
      exact absurd hread (by simp [readParts])
    rw [read_of_splits h, readPath_separated hne hparts, hread]
    rfl

/-- Every text without outer blanks is a pattern or has a fault. -/
lemma spells_or_misread {whole : List Char} (hwhole : trimStart whole = whole) :
    (∃ form : Form, form.Spells whole) ∨ ∃ e, Misread whole e := by
  rcases splits_or_misread hwhole with ⟨method, path, h⟩ | hmethod
  · by_cases hpath : path.head? = some '/'
    · obtain ⟨rest, rfl⟩ := List.head?_eq_some_iff.1 hpath
      obtain ⟨hpath, hparts⟩ := splitOn_eq_iff.1 (rfl : splitOn '/' rest = _)
      rw [← hpath] at h
      rcases ends_or_misread (String.ofList whole) (splitOn '/' rest) with
        ⟨terms, ending, hsplit⟩ | ⟨e, hfault⟩
      · have hterms : ending = .closed → terms ≠ [] := by
          rintro rfl rfl
          exact splitOn_ne_nil '/' rest hsplit
        rw [hsplit] at h
        exact .inl ⟨⟨method, terms, ending, hterms⟩, h⟩
      · exact .inr ⟨e, .parts h hparts hfault⟩
    · exact .inr ⟨_, .slash h hpath⟩
  · exact .inr ⟨_, hmethod⟩

/-- Reading is described by the spellings of patterns and by the faults of other texts. -/
lemma read_iff (text : String) :
    (∀ p, read text = .ok p ↔
      ∃ form : Form, form.Spells (trim text.toList) ∧ p = form.pattern (trimmed text)) ∧
    ∀ e, read text = .error e ↔ Misread (trim text.toList) e := by
  refine outcome_iff ?_ (fun _ => read_of_misread) ?_
  · rintro p ⟨form, hform, rfl⟩
    exact read_of_spells hform
  · rcases spells_or_misread (trimStart_trim text.toList) with ⟨form, hform⟩ | hmisread
    · exact .inl ⟨_, form, hform, rfl⟩
    · exact .inr hmisread

end patterns

/-- **Reading a pattern follows the grammar.**  A text is read exactly if it spells a pattern, apart
from outer blanks, and otherwise its fault is reported.  A pattern is displayed as it was written,
without outer blanks, and when it is read from its display the same pattern comes out. -/
theorem read_follows_grammar (text : String) :
    (∀ p, read text = .ok p ↔
      ∃ form : Form, form.Spells (trim text.toList) ∧ p = form.pattern (trimmed text)) ∧
    (∀ e, read text = .error e ↔ Misread (trim text.toList) e) ∧
    ∀ p, read text = .ok p → p.source = trimmed text ∧ read p.source = .ok p := by
  refine ⟨(read_iff text).1, (read_iff text).2, fun p h => ?_⟩
  obtain ⟨form, hform, rfl⟩ := ((read_iff text).1 p).1 h
  have hagain : form.Spells (trim (trimmed text).toList) := by rwa [toList_trimmed, trim_trim]
  refine ⟨rfl, (read_of_spells hagain).trans ?_⟩
  rw [trimmed_trimmed]

/-- A pattern with a method, two wildcards and outer blanks, and one whose leftmost fault is that a
part is empty. -/
theorem read_follows_grammar_behind_method :
    (∃ p, read " get\t/v1/\x7bid\x7d/\x7brest...\x7d " = .ok p ∧
      p.source = "get\t/v1/\x7bid\x7d/\x7brest...\x7d" ∧ read p.source = .ok p) ∧
    read "/v1//a*" = .error (.emptySegment "/v1//a*") := by
  let v1 : Word := ⟨"v1".toList, by simp, by simp⟩
  let form : Form :=
    ⟨some ⟨"get".toList, by simp, by simp⟩,
      [.word v1, .named ⟨"id".toList, by simp, by simp⟩],
      .rest ⟨"rest".toList, by simp, by simp⟩, by simp⟩
  constructor
  · obtain ⟨hok, -, hdisplay⟩ := read_follows_grammar " get\t/v1/\x7bid\x7d/\x7brest...\x7d "
    have hwhole : trim " get\t/v1/\x7bid\x7d/\x7brest...\x7d ".toList =
        "get".toList ++ ['\t'] ++ form.path := by decide +kernel
    have hform : form.Spells (trim " get\t/v1/\x7bid\x7d/\x7brest...\x7d ".toList) := by
      rw [hwhole]
      exact .method (by simp) (by simp [isBlank]) (by simp [form, Form.path, Term.text, isBlank])
    have hread := (hok _).2 ⟨form, hform, rfl⟩
    obtain ⟨hsource, hagain⟩ := hdisplay _ hread
    exact ⟨_, hread, hsource.trans (by decide +kernel), hagain⟩
  · have hwhole : trim "/v1//a*".toList = separated '/' ["v1".toList, [], "a*".toList] := by
      decide +kernel
    refine ((read_follows_grammar "/v1//a*").2.1 _).2 ?_
    rw [hwhole]
    exact .parts (.bare (by simp [isBlank])) (by simp)
      (@PartsMisread.empty _ [.word v1] ["a*".toList] (by decide))

end Admission.Pattern
