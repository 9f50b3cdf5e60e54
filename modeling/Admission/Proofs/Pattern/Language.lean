/-
# The requests that a pattern matches

A pattern denotes a set of paths: those that are put together from what its terms stand for, and the
longer ones too if it is open (`Form.Denotes`).  Matching cuts the pattern and the path at their
slashes and compares the parts.  In the end the requests that match are just those with such a path
and with the method of the pattern, if it has one (`matches_denoted_requests`).
-/
import Admission.Proofs.Pattern.Grammar
import Mathlib.Data.List.Forall2

namespace Admission.Pattern

open Text

/-! ## The paths of a pattern -/

/-- What a term stands for: a word for itself, a wildcard for everything but the empty text. -/
def Term.Takes : Term → List Char → Prop
  | .word w, part => part = w.chars
  | .star, part | .named _, part => part ≠ []

/-- The parts are what the terms stand for, one by one, and a slash stands in none of them. -/
structure Fits (terms : List Term) (parts : List (List Char)) : Prop where
  takes : List.Forall₂ Term.Takes terms parts
  slash_notMem : ∀ part ∈ parts, '/' ∉ part

/-- The paths that a pattern denotes. -/
inductive Form.Denotes (form : Form) : List Char → Prop
  /-- Without terms it denotes all paths. -/
  | all {rest : List Char} (h : form.terms = []) : Denotes form ('/' :: rest)
  /-- With terms it denotes what fits them. -/
  | exactly {parts : List (List Char)} (hne : form.terms ≠ []) (h : Fits form.terms parts) :
    Denotes form (separated '/' parts)
  /-- An open pattern also denotes all that goes on from there with a slash. -/
  | beyond {parts : List (List Char)} {rest : List Char} (hne : form.terms ≠ [])
    (hopen : form.ending ≠ .closed) (h : Fits form.terms parts) :
    Denotes form (separated '/' parts ++ '/' :: rest)

/-- The request has the method of the pattern, in whatever case, or the pattern has none. -/
def Form.Allows (form : Form) (method : String) : Prop :=
  ∀ m ∈ form.method, sameIgnoringCase (String.ofList m.chars) method = true

/-- The patterns differ at most in the way that their wildcards are written and named, be they for
single segments or for the rest. -/
structure Form.Alike (form form' : Form) : Prop where
  method : form.method = form'.method
  terms : form.terms.map Term.segment = form'.terms.map Term.segment
  ending : form.ending = .closed ↔ form'.ending = .closed

/-! ## Matching -/

section matching

variable {form : Form} {terms : List Term} {parts : List (List Char)} {part rest : List Char}
variable {isOpen : Bool}

lemma Term.takes_segment_iff (term : Term) : term.segment.takes part = true ↔ term.Takes part := by
  cases term with
  | word w => simp [Term.segment, Segment.takes, Term.Takes, String.ofList_inj]
  | star => simp [Term.segment, Segment.takes, Term.Takes]
  | named name => simp [Term.segment, Segment.takes, Term.Takes]

lemma Term.Takes.ne_nil {term : Term} (h : term.Takes part) : part ≠ [] := by
  cases term with
  | word w => exact h ▸ w.ne_nil
  | star => exact h
  | named name => exact h

lemma takesAll_iff : takesAll isOpen (terms.map Term.segment) parts = true ↔
    ∃ front more, parts = front ++ more ∧ List.Forall₂ Term.Takes terms front ∧
      (more ≠ [] → isOpen = true) := by
  induction terms generalizing parts with
  | nil =>
    cases parts with
    | nil => simp [takesAll]
    | cons part parts => simp [takesAll]
  | cons term terms ih =>
    cases parts with
    | nil => simp [takesAll]
    | cons part parts =>
      simp only [List.map_cons, takesAll, Bool.and_eq_true, term.takes_segment_iff, ih,
        List.forall₂_cons_left_iff]
      constructor
      · rintro ⟨hpart, front, more, rfl, hfront, hmore⟩
        exact ⟨part :: front, more, rfl, ⟨part, front, hpart, hfront, rfl⟩, hmore⟩
      · rintro ⟨_, more, hparts, ⟨part', front, hpart, hfront, rfl⟩, hmore⟩
        obtain ⟨rfl, rfl⟩ := List.cons.inj hparts
        exact ⟨hpart, front, more, rfl, hfront, hmore⟩

/-- No term takes the empty part that is left of a path behind its only slash. -/
lemma takesAll_pathParts (hne : terms ≠ []) :
    takesAll isOpen (terms.map Term.segment) (pathParts rest) =
      takesAll isOpen (terms.map Term.segment) (splitOn '/' rest) := by
  cases rest with
  | nil =>
    obtain ⟨term, terms, rfl⟩ := List.exists_cons_of_ne_nil hne
    have hnot : term.segment.takes [] = false := by
      rw [Bool.eq_false_iff, ne_eq, term.takes_segment_iff]
      exact fun h => h.ne_nil rfl
    simp [pathParts, splitOn, takesAll, hnot]
  | cons c rest => rfl

lemma Ending.isOpen_iff (ending : Ending) : ending.isOpen = true ↔ ending ≠ .closed := by
  cases ending <;> simp [Ending.isOpen]

/-- A path is taken if its first parts fit the terms and others only follow in an open pattern. -/
lemma takesPath_of_fits (more : List (List Char)) (hne : form.terms ≠ [])
    (h : Fits form.terms parts) (hmore : ∀ part ∈ more, '/' ∉ part)
    (hopen : more ≠ [] → form.ending.isOpen = true) (source : String) {path : String}
    (hpath : path.toList = separated '/' (parts ++ more)) :
    (form.pattern source).takesPath path = true := by
  have hparts : parts ++ more ≠ [] := by
    rintro hnil
    obtain ⟨rfl, -⟩ := List.append_eq_nil_iff.1 hnil
    exact hne (List.forall₂_nil_right_iff.1 h.takes)
  obtain ⟨first, others, hcons⟩ := List.exists_cons_of_ne_nil hparts
  have hsplit : splitOn '/' (first ++ separated '/' others) = parts ++ more :=
    splitOn_of_separated hparts (List.forall_mem_append.2 ⟨h.slash_notMem, hmore⟩)
      (by rw [hcons, separated_cons])
  rw [takesPath, hpath, hcons, separated_cons]
  exact (takesAll_pathParts hne).trans (takesAll_iff.2 ⟨parts, more, hsplit, h.takes, hopen⟩)

/-- A pattern takes exactly the paths that it denotes. -/
lemma takesPath_iff (source : String) {path : String} :
    (form.pattern source).takesPath path = true ↔ form.Denotes path.toList := by
  constructor
  · intro h
    rw [takesPath] at h
    split at h
    · rename_i rest hpath
      rw [hpath]
      by_cases hne : form.terms = []
      · exact .all hne
      obtain ⟨front, more, hsplit, hfront, hopen⟩ :=
        takesAll_iff.1 ((takesAll_pathParts hne).symm.trans h)
      obtain ⟨hrest, hslash⟩ := splitOn_eq_iff.1 hsplit
      have hfits : Fits form.terms front := ⟨hfront, (List.forall_mem_append.1 hslash).1⟩
      rw [← hrest, separated_append]
      -- parts that are left over stand behind another slash
      cases more with
      | nil =>
        rw [separated_nil, List.append_nil]
        exact .exactly hne hfits
      | cons part more =>
        exact .beyond hne (form.ending.isOpen_iff.1 (hopen (by simp))) hfits
    · exact absurd h (by simp)
  · intro h
    generalize hpath : path.toList = cs at h
    cases h with
    | @all rest hterms =>
      have hopen : form.ending.isOpen = true :=
        form.ending.isOpen_iff.2 fun hclosed => form.terms_ne_nil hclosed hterms
      rw [takesPath, hpath]
      simp only [Form.pattern, hterms, hopen]
      -- no segment is left to be compared with
      cases pathParts rest <;> rfl
    | @exactly parts hne hfits =>
      refine takesPath_of_fits [] hne hfits (by simp) (by simp) source ?_
      rw [hpath, List.append_nil]
    | @beyond parts rest hne hopen hfits =>
      refine takesPath_of_fits (splitOn '/' rest) hne hfits
        (fun _ => notMem_of_mem_splitOn) (fun _ => form.ending.isOpen_iff.2 hopen) source ?_
      rw [hpath, separated_append, separated_splitOn]

lemma takesMethod_iff (source : String) {method : String} :
    (form.pattern source).takesMethod method = true ↔ form.Allows method := by
  rw [takesMethod, Form.pattern, Form.Allows]
  cases form.method with
  | none => simp
  | some m => simp [sameIgnoringCase_upper]

lemma matches?_iff (source : String) {method path : String} :
    (form.pattern source).matches? method path = true ↔
      form.Allows method ∧ form.Denotes path.toList := by
  rw [matches?, Bool.and_eq_true, takesMethod_iff, takesPath_iff]

end matching

/-! ## Patterns that match the same requests -/

section alike

variable {form form' : Form} {terms : List Term} {parts : List (List Char)} {cs : List Char}

lemma Form.Alike.matches?_eq (h : form.Alike form') (source source' method path : String) :
    (form.pattern source).matches? method path =
      (form'.pattern source').matches? method path := by
  have hopen : form.ending.isOpen = form'.ending.isOpen := by
    rw [Bool.eq_iff_iff, Ending.isOpen_iff, Ending.isOpen_iff, ne_eq, ne_eq, h.ending]
  simp only [matches?, takesMethod, takesPath, Form.pattern, h.method, h.terms, hopen]

/-- The pattern with a wildcard for the rest at its end. -/
def Form.withRest (form : Form) (name : Name) : Form :=
  ⟨form.method, form.terms, .rest name, by simp⟩

lemma Form.alike_withRest (hslash : form.ending = .slash) (name : Name) :
    form.Alike (form.withRest name) :=
  ⟨rfl, rfl, by simp [hslash, Form.withRest]⟩

lemma Name.not_isBlank_rest (name : Name) : ∀ c ∈ name.rest, isBlank c = false := by
  intro c hc
  simp only [Name.rest, List.mem_cons, List.mem_append, List.not_mem_nil, or_false] at hc
  rcases hc with rfl | hname | rfl | rfl | rfl | rfl
  · decide
  · rcases name.isNameChar c hname with halphanum | rfl
    · exact not_isBlank_of_isAlphanum halphanum
    · decide
  all_goals decide

lemma Splits.append {method : Option Method} {path text more : List Char}
    (h : Splits method path text) (hne : path ≠ []) (hmore : ∀ c ∈ more, isBlank c = false) :
    Splits method (path ++ more) (text ++ more) := by
  cases h with
  | bare h => exact .bare (List.forall_mem_append.2 ⟨h, hmore⟩)
  | method hgap hblank hpath =>
    rw [List.append_assoc]
    refine .method hgap hblank ?_
    rwa [List.head?_append_of_ne_nil _ hne]

lemma Splits.ne_nil {method : Option Method} {path text : List Char} (h : Splits method path text)
    (hne : path ≠ []) : text ≠ [] := by
  cases h with
  | bare _ => exact hne
  | method _ _ _ => simp [hne]

lemma Form.Spells.ne_nil {text : List Char} (h : form.Spells text) : text ≠ [] := by
  obtain ⟨part, parts, hparts⟩ := List.exists_cons_of_ne_nil form.parts_ne_nil
  exact Splits.ne_nil h (by simp [Form.path, hparts])

/-- A slash at the end of a pattern can be followed by a wildcard for the rest. -/
lemma Form.Spells.withRest {text : List Char} (h : form.Spells text)
    (hslash : form.ending = .slash) (name : Name) :
    (form.withRest name).Spells (text ++ name.rest) := by
  have hpath : form.path = separated '/' (form.terms.map Term.text) ++ ['/'] := by
    rw [Form.path, hslash, separated_append]
    rfl
  have hrest : (form.withRest name).path = form.path ++ name.rest := by
    rw [hpath, List.append_assoc, Form.path, separated_append]
    simp [Form.withRest, Ending.parts]
  rw [Form.Spells, hrest]
  exact Splits.append h (by simp [hpath]) name.not_isBlank_rest

/-- What ends with a brace has no blanks at its end. -/
lemma trim_append_rest (hne : trim cs ≠ []) (name : Name) :
    trim (trim cs ++ name.rest) = trim cs ++ name.rest := by
  obtain ⟨c, front, hfront⟩ := List.exists_cons_of_ne_nil hne
  have hblank : isBlank c = false := not_isBlank_of_trimStart_eq (hfront ▸ trimStart_trim cs)
  have hlast : (trim cs ++ name.rest).getLast? = some '}' :=
    List.getLast?_eq_some_iff.2 ⟨trim cs ++ '{' :: (name.chars ++ ['.', '.', '.']), by
      simp [Name.rest]⟩
  rw [trim, hfront, List.cons_append, trimStart_cons_of_not_blank _ hblank, ← List.cons_append,
    ← hfront, trimEnd_eq_self hlast (by decide)]

lemma eq_text_of_takes (hwords : ∀ term ∈ terms, ∃ w, term = .word w) :
    List.Forall₂ Term.Takes terms parts ↔ parts = terms.map Term.text := by
  induction terms generalizing parts with
  | nil => simp
  | cons term terms ih =>
    obtain ⟨⟨w, rfl⟩, hmore⟩ := List.forall_mem_cons.1 hwords
    simp [List.forall₂_cons_left_iff, ih hmore, Term.Takes, Term.text]

/-- A pattern without wildcards denotes its own path only, if it is closed. -/
lemma Form.denotes_iff_of_words (hclosed : form.ending = .closed)
    (hwords : ∀ term ∈ form.terms, ∃ w, term = .word w) : form.Denotes cs ↔ cs = form.path := by
  have hpath : form.path = separated '/' (form.terms.map Term.text) := by
    simp [Form.path, hclosed, Ending.parts]
  rw [hpath]
  constructor
  · rintro (hterms | ⟨hne, htakes, -⟩ | ⟨-, hopen, -⟩)
    · exact absurd hterms (form.terms_ne_nil hclosed)
    · rw [(eq_text_of_takes hwords).1 htakes]
    · exact absurd hclosed hopen
  · rintro rfl
    exact .exactly (form.terms_ne_nil hclosed) ⟨(eq_text_of_takes hwords).2 rfl,
      List.forall_mem_map.2 fun term _ => term.slash_notMem⟩

end alike

/-- **A pattern matches the requests that it denotes.**  These are the requests with its method, if
it has one, and with a path that is put together from what its words and wildcards stand for, with
anything behind another slash if the pattern is open.  So the names of wildcards do not matter, a
slash at the end can be followed by a wildcard for the rest, and a closed pattern without wildcards
matches its own path only. -/
theorem matches_denoted_requests {text : String} {p : Pattern} (h : read text = .ok p) :
    (∃ form : Form, form.Spells (trim text.toList)) ∧
    ∀ form : Form, form.Spells (trim text.toList) →
      (∀ method path, p.matches? method path = true ↔
        form.Allows method ∧ form.Denotes path.toList) ∧
      (∀ text' p' form', read text' = .ok p' → form'.Spells (trim text'.toList) →
        form.Alike form' → ∀ method path, p.matches? method path = p'.matches? method path) ∧
      (form.ending = .slash → ∀ name : Name, ∃ p',
        read (p.source ++ String.ofList name.rest) = .ok p' ∧
          ∀ method path, p.matches? method path = p'.matches? method path) ∧
      (form.ending = .closed → (∀ term ∈ form.terms, ∃ w, term = .word w) →
        ∀ method path, p.matches? method path = true ↔
          form.Allows method ∧ path.toList = form.path) := by
  obtain ⟨form, hform, -⟩ := ((read_iff text).1 p).1 h
  refine ⟨⟨form, hform⟩, fun form hform => ?_⟩
  obtain rfl := Except.ok.inj (h.symm.trans (read_of_spells hform))
  refine ⟨fun method path => matches?_iff _, fun text' p' form' h' hform' halike => ?_,
    fun hslash name => ?_, fun hclosed hwords method path => ?_⟩
  · obtain rfl := Except.ok.inj (h'.symm.trans (read_of_spells hform'))
    exact halike.matches?_eq _ _
  · have hspells : (form.withRest name).Spells
        (trim (trimmed text ++ String.ofList name.rest).toList) := by
      rw [String.toList_append, toList_trimmed, String.toList_ofList, trim_append_rest hform.ne_nil]
      exact hform.withRest hslash name
    exact ⟨_, read_of_spells hspells, (Form.alike_withRest hslash name).matches?_eq _ _⟩
  · rw [matches?_iff, Form.denotes_iff_of_words hclosed hwords]

/-- An open pattern with a method and a wildcard, with and without a wildcard for the rest, and a
pattern that is a single word. -/
theorem matches_denoted_requests_below_wildcard :
    (∃ p, read "post /a/*/" = .ok p ∧ p.matches? "POST" "/a/b//c" = true ∧
      ∃ p', read "post /a/*/\x7brest...\x7d" = .ok p' ∧ p'.matches? "POST" "/a/b//c" = true) ∧
    ∃ p, read "/v1" = .ok p ∧ ∀ path, p.matches? "GET" path = true ↔ path = "/v1" := by
  constructor
  · let form : Form :=
      ⟨some ⟨"post".toList, by simp, by simp⟩,
        [.word ⟨['a'], by simp, by simp⟩, .star], .slash, by simp⟩
    have hform : form.Spells (trim "post /a/*/".toList) := by
      have hwhole : trim "post /a/*/".toList = "post".toList ++ [' '] ++ form.path := by
        decide +kernel
      rw [hwhole]
      exact .method (by simp) (by simp [isBlank]) (by simp [form, Form.path, Term.text, isBlank])
    have hread := read_of_spells hform
    obtain ⟨hmatches, -, hrest, -⟩ := (matches_denoted_requests hread).2 form hform
    obtain ⟨p', hread', hsame⟩ := hrest rfl ⟨"rest".toList, by simp, by simp⟩
    have hallows : form.Allows "POST" := by
      rintro m ⟨⟩
      decide +kernel
    have hdenotes : form.Denotes "/a/b//c".toList := by
      have hpath : "/a/b//c".toList = separated '/' [['a'], ['b']] ++ '/' :: ['/', 'c'] := by
        decide +kernel
      rw [hpath]
      exact .beyond (by simp [form]) (by simp [form])
        ⟨.cons rfl (.cons (by simp [Term.Takes]) .nil), by simp⟩
    have hpost := (hmatches "POST" "/a/b//c").2 ⟨hallows, hdenotes⟩
    exact ⟨_, hread, hpost, p', hread', (hsame _ _).symm.trans hpost⟩
  · let form : Form :=
      ⟨none, [.word ⟨['v', '1'], by simp, by simp⟩], .closed, by simp⟩
    have hform : form.Spells (trim "/v1".toList) := by
      have hwhole : trim "/v1".toList = form.path := by decide +kernel
      rw [hwhole]
      exact .bare (by simp [form, Form.path, Term.text, Ending.parts, isBlank])
    have hread := read_of_spells hform
    obtain ⟨-, -, -, hown⟩ := (matches_denoted_requests hread).2 form hform
    refine ⟨_, hread, fun path => (hown rfl (by simp [form]) "GET" path).trans ?_⟩
    have hallows : form.Allows "GET" := by rintro m ⟨⟩
    rw [and_iff_right hallows, ← String.toList_inj]
    rfl

end Admission.Pattern
