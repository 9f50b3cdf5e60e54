/-
# The grammar of durations

A duration is written as a whole number of seconds or as a sequence of amounts with their units.
The amounts of a sequence are added up as binary64 numbers of nanoseconds, and the sum must fit 64
bits.  Reading follows this exactly (`parse_eq_some_iff`).  If the amounts are natural numbers and
their sum has at most 53 bits, no step on the way rounds anything, so that the sum is exact
(`parse_of_pairs`).
-/
import Admission.Duration.Text
import Admission.Proofs.Binary64.Whole
import Admission.Proofs.Text.Letters
import Admission.Proofs.Text.Numerals
import Admission.Proofs.Text.Runs
import Admission.Proofs.Text.Trimming

namespace Admission.Duration

open Binary64 (whole)
open Text

/-! ## Durations as they are written -/

/-- The units of amounts.  There are two ways to write microseconds. -/
inductive TimeUnit where
  | nanoseconds
  | microseconds
  | microsecondsWithMu
  | milliseconds
  | seconds
  | minutes
  | hours

/-- How a unit is written. -/
def TimeUnit.text : TimeUnit → List Char
  | .nanoseconds => ['n', 's']
  | .microseconds => ['u', 's']
  | .microsecondsWithMu => ['µ', 's']
  | .milliseconds => ['m', 's']
  | .seconds => ['s']
  | .minutes => ['m']
  | .hours => ['h']

/-- The nanoseconds in a unit. -/
def TimeUnit.nanos : TimeUnit → Nat
  | .nanoseconds => 1
  | .microseconds | .microsecondsWithMu => 1000
  | .milliseconds => 1000000
  | .seconds => 1000000000
  | .minutes => 60 * 1000000000
  | .hours => 3600 * 1000000000

/-- An amount with its unit. -/
structure Term where
  /-- The amount. -/
  amount : Amount
  /-- Its unit. -/
  unit : TimeUnit

/-- How an amount with its unit is written. -/
def Term.text (t : Term) : List Char :=
  t.amount.text ++ t.unit.text

/-- The nanoseconds of an amount: it is rounded itself, and its product with the unit is. -/
def Term.value (t : Term) : Binary64 :=
  .ofRatio t.amount.fraction.digits (Nat.pow 10 t.amount.fraction.places) * .ofNat t.unit.nanos

/-- The sum of amounts, rounded after each of them. -/
def total (terms : List Term) : Binary64 :=
  terms.foldl (fun sum t => sum + t.value) .zero

/-- The duration that a sum of nanoseconds is read as.  The limit itself is read as the longest
duration below it. -/
def ofTotal? (sum : Binary64) : Option Duration :=
  if sum ≤ whole (2 ^ 64) then some ⟨min sum.round (2 ^ 64 - 1)⟩ else none

/-- The text is a number of seconds that fits 64 bits, or a sequence of amounts with units, and the
duration is the one that is meant. -/
inductive Means : List Char → Duration → Prop
  | seconds {cs : List Char} {n : Nat} (h : Denotes cs n) (hfits : n < 2 ^ 64) :
    Means cs (.ofSeconds n)
  | terms {terms : List Term} {d : Duration} (hne : terms ≠ [])
    (hsum : ofTotal? (total terms) = some d) : Means (terms.flatMap Term.text) d

/-! ## Units and terms -/

variable {cs amount unit : List Char}

lemma unitNanos?_text (u : TimeUnit) : unitNanos? u.text = some u.nanos := by
  cases u <;> decide +kernel

lemma unitNanos?_eq_some_iff {n : Nat} :
    unitNanos? cs = some n ↔ ∃ u : TimeUnit, u.text = cs ∧ u.nanos = n := by
  constructor
  · intro h
    have hunit : ∃ u : TimeUnit, String.ofList cs = String.ofList u.text := by
      rw [unitNanos?] at h
      split at h
      · exact ⟨.nanoseconds, by assumption⟩
      · exact ⟨.microseconds, by assumption⟩
      · exact ⟨.microsecondsWithMu, by assumption⟩
      · exact ⟨.milliseconds, by assumption⟩
      · exact ⟨.seconds, by assumption⟩
      · exact ⟨.minutes, by assumption⟩
      · exact ⟨.hours, by assumption⟩
      · exact absurd h (by simp)
    obtain ⟨u, hu⟩ := hunit
    obtain rfl := String.ofList_injective hu
    exact ⟨u, rfl, Option.some.inj ((unitNanos?_text u).symm.trans h)⟩
  · rintro ⟨u, rfl, rfl⟩
    exact unitNanos?_text u

lemma term?_eq_some_iff {x : Binary64} :
    term? amount unit = some x ↔
      ∃ t : Term, t.amount.text = amount ∧ t.unit.text = unit ∧ t.value = x := by
  rw [term?]
  constructor
  · intro h
    split at h
    · rename_i f n hamount hunit
      obtain ⟨a, rfl, rfl⟩ := fraction?_eq_some_iff.1 hamount
      obtain ⟨u, rfl, rfl⟩ := unitNanos?_eq_some_iff.1 hunit
      exact ⟨⟨a, u⟩, rfl, rfl, Option.some.inj h⟩
    · exact absurd h (by simp)
  · rintro ⟨t, rfl, rfl, rfl⟩
    rw [fraction?_eq_some_iff.2 ⟨t.amount, rfl, rfl⟩, unitNanos?_text]
    rfl

/-- A sequence of runs is added up if it consists of amounts and units in turn. -/
lemma addTerms_eq_some_iff {sum result : Binary64} {parts : List (List Char)} :
    addTerms sum parts = some result ↔
      ∃ terms : List Term, parts = terms.flatMap (fun t => [t.amount.text, t.unit.text]) ∧
        terms.foldl (fun sum t => sum + t.value) sum = result := by
  constructor
  · intro h
    fun_induction addTerms sum parts with
    | case1 sum => exact ⟨[], rfl, Option.some.inj h⟩
    | case2 sum part => exact absurd h (by simp)
    | case3 sum amount unit more x hx ih =>
      obtain ⟨t, rfl, rfl, rfl⟩ := term?_eq_some_iff.1 hx
      obtain ⟨terms, rfl, hsum⟩ := ih h
      exact ⟨t :: terms, rfl, hsum⟩
    | case4 sum amount unit more hx => exact absurd h (by simp)
  · rintro ⟨terms, rfl, rfl⟩
    induction terms generalizing sum with
    | nil => rfl
    | cons t terms ih =>
      have ht : term? t.amount.text t.unit.text = some t.value :=
        term?_eq_some_iff.2 ⟨t, rfl, rfl, rfl⟩
      simp only [List.flatMap_cons, List.cons_append, List.nil_append, List.foldl_cons, addTerms,
        ht]
      exact ih

/-! ## Characters -/

lemma isAmountChar_of_mem_amount (a : Amount) : ∀ c ∈ a.text, isAmountChar c = true := by
  intro c hc
  rw [isAmountChar]
  rcases a.chars c hc with hdigit | rfl
  · rw [hdigit, Bool.true_or]
  · rfl

lemma unit_text_ne_nil (u : TimeUnit) : u.text ≠ [] := by
  cases u <;> simp [TimeUnit.text]

/-- Units are written with six letters. -/
lemma letter_of_mem_unit {u : TimeUnit} {c : Char} (h : c ∈ u.text) :
    c = 'n' ∨ c = 'u' ∨ c = 'µ' ∨ c = 'm' ∨ c = 's' ∨ c = 'h' := by
  cases u <;> simp only [TimeUnit.text, List.mem_cons, List.not_mem_nil, or_false] at h <;> tauto

lemma not_isAmountChar_of_mem_unit (u : TimeUnit) : ∀ c ∈ u.text, isAmountChar c = false := by
  intro c hc
  rcases letter_of_mem_unit hc with rfl | rfl | rfl | rfl | rfl | rfl <;> decide

lemma not_isBlank_of_mem_unit {u : TimeUnit} {c : Char} (h : c ∈ u.text) : isBlank c = false := by
  rcases letter_of_mem_unit h with rfl | rfl | rfl | rfl | rfl | rfl <;> decide

lemma not_isNumeric_of_mem_unit {u : TimeUnit} {c : Char} (h : c ∈ u.text) : ¬ IsNumeric c := by
  rw [IsNumeric]
  rcases letter_of_mem_unit h with rfl | rfl | rfl | rfl | rfl | rfl <;> decide

lemma not_isBlank_of_isAmountChar {c : Char} (h : isAmountChar c = true) : isBlank c = false := by
  rw [isAmountChar, Bool.or_eq_true, beq_iff_eq] at h
  rcases h with hdigit | rfl
  · exact not_isBlank_of_isAlphanum (by rw [Char.isAlphanum, hdigit, Bool.or_true])
  · decide

lemma exists_head?_terms {terms : List Term} (hne : terms ≠ []) :
    ∃ c, (terms.flatMap Term.text).head? = some c ∧ isAmountChar c = true := by
  obtain ⟨t, more, rfl⟩ := List.exists_cons_of_ne_nil hne
  obtain ⟨c, rest, hamount⟩ := List.exists_cons_of_ne_nil t.amount.text_ne_nil
  refine ⟨c, ?_, isAmountChar_of_mem_amount t.amount c (by simp [hamount])⟩
  rw [List.flatMap_cons, Term.text, hamount]
  rfl

/-- A sequence ends with a unit. -/
lemma exists_getLast?_terms {terms : List Term} (hne : terms ≠ []) :
    ∃ c, (terms.flatMap Term.text).getLast? = some c ∧ ∃ u : TimeUnit, c ∈ u.text := by
  obtain ⟨before, t, rfl⟩ := (List.eq_nil_or_concat' terms).resolve_left hne
  obtain ⟨front, c, hunit⟩ := (List.eq_nil_or_concat' t.unit.text).resolve_left
    (unit_text_ne_nil t.unit)
  refine ⟨c, ?_, t.unit, by simp [hunit]⟩
  rw [List.flatMap_append, List.flatMap_singleton, Term.text, hunit, ← List.append_assoc,
    ← List.append_assoc, List.getLast?_concat]

lemma not_denotes_terms {terms : List Term} (hne : terms ≠ []) (n : Nat) :
    ¬ Denotes (terms.flatMap Term.text) n := by
  intro h
  obtain ⟨c, hlast, u, hc⟩ := exists_getLast?_terms hne
  rcases h.chars c (List.mem_of_getLast? hlast) with hdigit | rfl
  · exact not_isNumeric_of_mem_unit hc (.inl hdigit)
  · exact absurd (letter_of_mem_unit hc) (by decide)

/-- The runs of a sequence are its amounts and units in turn. -/
lemma runs_terms (terms : List Term) :
    runs isAmountChar (terms.flatMap Term.text) =
      terms.flatMap fun t => [t.amount.text, t.unit.text] := by
  induction terms with
  | nil => rfl
  | cons t terms ih =>
    obtain ⟨c, rest, hunit⟩ := List.exists_cons_of_ne_nil (unit_text_ne_nil t.unit)
    have hnotAmount := not_isAmountChar_of_mem_unit t.unit
    have hunitHead : ∀ d ∈ (t.unit.text ++ terms.flatMap Term.text).head?,
        isAmountChar d = !true := by
      rw [hunit] at hnotAmount ⊢
      rintro d ⟨⟩
      exact hnotAmount c List.mem_cons_self
    have hmoreHead : ∀ d ∈ (terms.flatMap Term.text).head?, isAmountChar d = !false := by
      rintro d hd
      by_cases hnil : terms = []
      · subst hnil
        exact absurd hd (by simp)
      · obtain ⟨e, he, hamount⟩ := exists_head?_terms hnil
        obtain rfl : e = d := Option.some.inj (he.symm.trans hd)
        exact hamount
    rw [List.flatMap_cons, Term.text, List.append_assoc,
      runs_append t.amount.text_ne_nil (isAmountChar_of_mem_amount t.amount) hunitHead,
      runs_append (unit_text_ne_nil t.unit) hnotAmount hmoreHead, ih]
    rfl

/-! ## Reading -/

lemma ofTerms?_eq (cs : List Char) :
    ofTerms? cs = (addTerms .zero (runs isAmountChar cs)).bind ofTotal? := by
  rw [ofTerms?]
  cases addTerms .zero (runs isAmountChar cs) with
  | none => rfl
  | some sum =>
    have hsize : UInt64.size = 2 ^ 64 := rfl
    simp only [Option.bind_some, ofTotal?, Binary64.le_iff, whole, hsize]

lemma ofTerms?_terms (terms : List Term) :
    ofTerms? (terms.flatMap Term.text) = ofTotal? (total terms) := by
  have hsum : addTerms .zero (runs isAmountChar (terms.flatMap Term.text)) = some (total terms) :=
    addTerms_eq_some_iff.2 ⟨terms, runs_terms terms, rfl⟩
  rw [ofTerms?_eq, hsum, Option.bind_some]

lemma ofTerms?_eq_some {d : Duration} (h : ofTerms? cs = some d) :
    ∃ terms : List Term, cs = terms.flatMap Term.text ∧ ofTotal? (total terms) = some d := by
  rw [ofTerms?_eq] at h
  obtain ⟨sum, hsum, hd⟩ := Option.bind_eq_some_iff.1 h
  obtain ⟨terms, hparts, rfl⟩ := addTerms_eq_some_iff.1 hsum
  refine ⟨terms, ?_, hd⟩
  rw [← flatten_runs isAmountChar cs, hparts, List.flatMap_def, List.flatten_flatten,
    List.map_map, List.flatMap_def]
  congr 2
  funext t
  simp [Term.text]

lemma parse_eq (s : String) :
    parse s = if trim s.toList = [] then none
      else match word? (trim s.toList) with
        | some n => some (.ofSeconds n.toNat)
        | none => ofTerms? (trim s.toList) := by
  rw [parse]
  by_cases hnil : trim s.toList = []
  · exact (if_pos (by simpa using hnil)).trans (if_pos hnil).symm
  · exact (if_neg (by simpa using hnil)).trans (if_neg hnil).symm

lemma parse_of_trim {s : String} {terms : List Term} (hne : terms ≠ [])
    (h : trim s.toList = terms.flatMap Term.text) : parse s = ofTotal? (total terms) := by
  have hnotNil : terms.flatMap Term.text ≠ [] := by
    obtain ⟨c, hc, -⟩ := exists_head?_terms hne
    intro hnil
    rw [hnil] at hc
    exact absurd hc (by simp)
  have hword : word? (terms.flatMap Term.text) = none := by
    rw [Option.eq_none_iff_forall_ne_some]
    exact fun w hw => not_denotes_terms hne _ (word?_eq_some_iff.1 hw)
  rw [parse_eq, h, if_neg hnotNil, hword]
  exact ofTerms?_terms terms

/-- What is read is what a text means. -/
lemma parse_eq_some_iff {s : String} {d : Duration} :
    parse s = some d ↔ Means (trim s.toList) d := by
  constructor
  · intro h
    rw [parse_eq] at h
    split at h
    · exact absurd h (by simp)
    · rename_i hne
      split at h
      · rename_i w hw
        obtain rfl := Option.some.inj h
        exact .seconds (word?_eq_some_iff.1 hw) w.toNat_lt
      · obtain ⟨terms, hcs, hd⟩ := ofTerms?_eq_some h
        rw [hcs] at hne ⊢
        refine .terms ?_ hd
        rintro rfl
        exact hne rfl
  · intro h
    generalize hcs : trim s.toList = cs at h
    cases h with
    | seconds h hfits =>
      rename_i n
      have hw : word? cs = some (UInt64.ofNat n) := by
        rw [word?_eq_some_iff, UInt64.toNat_ofNat', Nat.mod_eq_of_lt hfits]
        exact h
      have hne : cs ≠ [] := by
        rintro rfl
        cases h with
        | digits h => exact h.ne_nil rfl
      rw [parse_eq, hcs, if_neg hne, hw]
      dsimp only
      rw [UInt64.toNat_ofNat', Nat.mod_eq_of_lt hfits]
    | terms hne hsum => rw [parse_of_trim hne hcs, hsum]

/-- Blanks around a sequence do not matter. -/
lemma parse_terms {terms : List Term} (hne : terms ≠ []) {before after : List Char}
    (hbefore : ∀ c ∈ before, isBlank c = true) (hafter : ∀ c ∈ after, isBlank c = true) :
    parse (String.ofList (before ++ terms.flatMap Term.text ++ after)) =
      ofTotal? (total terms) := by
  obtain ⟨c, hfirst, hc⟩ := exists_head?_terms hne
  obtain ⟨d, hlast, u, hd⟩ := exists_getLast?_terms hne
  refine parse_of_trim hne ?_
  rw [String.toList_ofList]
  exact trim_between hbefore hafter hfirst (not_isBlank_of_isAmountChar hc) hlast
    (not_isBlank_of_mem_unit hd)

/-- Without units there is nothing but a number of seconds. -/
lemma parse_of_no_unit {s : String} {d : Duration} (h : ∀ c ∈ s.toList, IsNumeric c) :
    parse s = some d ↔ ∃ n, Denotes s.toList n ∧ n < 2 ^ 64 ∧ d = .ofSeconds n := by
  have hblank : ∀ c ∈ s.toList, isBlank c = false := by
    intro c hc
    rcases h c hc with hdigit | rfl | rfl
    · exact not_isBlank_of_isAmountChar (by rw [isAmountChar, hdigit, Bool.true_or])
    · decide
    · decide
  rw [parse_eq_some_iff, trim_of_not_blank hblank]
  constructor
  · intro hmeans
    generalize hcs : s.toList = cs at hmeans
    cases hmeans with
    | seconds hn hfits => exact ⟨_, hn, hfits, rfl⟩
    | terms hne hsum =>
      obtain ⟨c, hlast, u, hc⟩ := exists_getLast?_terms hne
      exact absurd (h c (hcs ▸ List.mem_of_getLast? hlast)) (not_isNumeric_of_mem_unit hc)
  · rintro ⟨n, hn, hfits, rfl⟩
    exact .seconds hn hfits

/-! ## Sums of natural numbers -/

/-- A natural number of units. -/
def Term.ofNat (n : Nat) (u : TimeUnit) : Term := ⟨.ofNat n, u⟩

lemma Term.text_ofNat (n : Nat) (u : TimeUnit) : (Term.ofNat n u).text = numeral n ++ u.text := by
  rw [Term.text, Term.ofNat, Amount.text_ofNat]

lemma Term.value_ofNat (n : Nat) (u : TimeUnit) :
    (Term.ofNat n u).value = .ofNat n * .ofNat u.nanos := by
  rw [Term.value, Term.ofNat, Amount.fraction_ofNat]
  rfl

lemma nanos_pos (u : TimeUnit) : 0 < u.nanos := by
  cases u <;> decide

lemma ofNat_nanos (u : TimeUnit) : Binary64.ofNat u.nanos = whole u.nanos :=
  Binary64.ofNat_eq_whole (Binary64.exact_of_lt (by cases u <;> decide))

/-- A natural number of units is rounded once. -/
lemma value_ofNat_of_lt {n : Nat} (h : n < 2 ^ 53) (u : TimeUnit) :
    (Term.ofNat n u).value = .ofNat (n * u.nanos) := by
  rw [Term.value_ofNat, Binary64.ofNat_eq_whole (Binary64.exact_of_lt h), ofNat_nanos,
    Binary64.whole_mul_whole]

/-- The nanoseconds of natural numbers of units. -/
def nanosOf (pairs : List (Nat × TimeUnit)) : Nat :=
  (pairs.map fun (n, u) => n * u.nanos).sum

/-- As long as a sum has 53 bits, adding up its terms is exact. -/
lemma foldl_pairs {pairs : List (Nat × TimeUnit)} {start : Nat}
    (h : start + nanosOf pairs < 2 ^ 53) :
    (pairs.map fun (n, u) => Term.ofNat n u).foldl (fun sum t => sum + t.value) (whole start) =
      whole (start + nanosOf pairs) := by
  induction pairs generalizing start with
  | nil => rfl
  | cons pair pairs ih =>
    obtain ⟨n, u⟩ := pair
    have hsplit : nanosOf ((n, u) :: pairs) = n * u.nanos + nanosOf pairs := List.sum_cons
    have hn : n ≤ n * u.nanos := Nat.le_mul_of_pos_right n (nanos_pos u)
    have hvalue : (Term.ofNat n u).value = whole (n * u.nanos) := by
      rw [value_ofNat_of_lt (by omega), Binary64.ofNat_eq_whole (Binary64.exact_of_lt (by omega))]
    have hsum : whole start + whole (n * u.nanos) = whole (start + n * u.nanos) := by
      rw [Binary64.whole_add_whole, Binary64.ofNat_eq_whole (Binary64.exact_of_lt (by omega))]
    rw [List.map_cons, List.foldl_cons, hvalue, hsum, ih (by omega), hsplit, Nat.add_assoc]

lemma ofTotal?_whole {n : Nat} (h : n < 2 ^ 64) : ofTotal? (whole n) = some ⟨n⟩ := by
  rw [ofTotal?, if_pos (Binary64.whole_le_whole.2 h.le), Binary64.round_whole,
    Nat.min_eq_left (by omega)]

lemma zero_eq_whole : Binary64.zero = whole 0 := by
  rw [Binary64.zero, whole, Nat.zero_mul]

lemma parse_of_pairs {pairs : List (Nat × TimeUnit)} (hne : pairs ≠ []) {before after : List Char}
    (hbefore : ∀ c ∈ before, isBlank c = true) (hafter : ∀ c ∈ after, isBlank c = true)
    (hsmall : nanosOf pairs < 2 ^ 53) :
    parse (String.ofList (before ++ pairs.flatMap (fun (n, u) => numeral n ++ u.text) ++ after)) =
      some ⟨nanosOf pairs⟩ := by
  have htext : pairs.flatMap (fun (n, u) => numeral n ++ u.text) =
      (pairs.map fun (n, u) => Term.ofNat n u).flatMap Term.text := by
    rw [List.flatMap_map]
    congr 1
    funext ⟨n, u⟩
    exact (Term.text_ofNat n u).symm
  have hsum := @foldl_pairs pairs 0 (by rwa [Nat.zero_add])
  rw [Nat.zero_add, ← zero_eq_whole] at hsum
  rw [htext, parse_terms (by simpa using hne) hbefore hafter, total, hsum]
  exact ofTotal?_whole (by omega)

/-- **Reading a duration follows the grammar.**  Apart from outer blanks, a text is read exactly if
it is a number of seconds that fits 64 bits or a sequence of amounts with units whose sum fits 64
bits, and what is read is what it means.  Natural numbers of units whose sum is below 2⁵³ ns are
added up exactly, however many they are and in whatever order they stand. -/
theorem parse_follows_grammar :
    (∀ (s : String) (d : Duration), parse s = some d ↔ Means (trim s.toList) d) ∧
    ∀ (pairs : List (Nat × TimeUnit)) (before after : List Char), pairs ≠ [] →
      (∀ c ∈ before, isBlank c = true) → (∀ c ∈ after, isBlank c = true) →
      (pairs.map fun (n, u) => n * u.nanos).sum < 2 ^ 53 →
      parse (String.ofList
        (before ++ pairs.flatMap (fun (n, u) => numeral n ++ u.text) ++ after)) =
        some ⟨(pairs.map fun (n, u) => n * u.nanos).sum⟩ :=
  ⟨fun _ _ => parse_eq_some_iff, fun _ _ _ hne hbefore hafter hsmall =>
    parse_of_pairs hne hbefore hafter hsmall⟩

/-- Minutes on both sides of seconds, with blanks around them. -/
theorem parse_follows_grammar_with_repeated_unit :
    parse "\t1m30s10m " = some ⟨690000000000⟩ :=
  parse_follows_grammar.2 [(1, .minutes), (30, .seconds), (10, .minutes)] ['\t'] [' ']
    (by simp) (List.forall_mem_singleton.2 (by decide)) (List.forall_mem_singleton.2 (by decide))
    (by decide)

end Admission.Duration
