/-
# Numerals

What is read as a number are digits, with a plus sign before them or a point among them where that
is allowed (`word?_eq_some_iff`, `fraction?_eq_some_iff`).  The numeral of a number consists of
digits and is read as that number.
-/
import Admission.Text.Numeral
import Mathlib.Tactic.Common

namespace Admission.Text

variable {cs : List Char} {n : Nat}

/-- There are characters, and all of them are digits. -/
structure Digits (cs : List Char) : Prop where
  ne_nil : cs ≠ []
  isDigit : ∀ c ∈ cs, c.isDigit = true

lemma natural?_eq_some_iff : natural? cs = some n ↔ Digits cs ∧ digitsValue cs = n := by
  rw [natural?]
  split
  · rename_i h
    simp only [Bool.and_eq_true, Bool.not_eq_true', List.isEmpty_eq_false_iff,
      List.all_eq_true] at h
    rw [Option.some.injEq]
    exact ⟨fun hn => ⟨⟨h.1, h.2⟩, hn⟩, fun hn => hn.2⟩
  · rename_i h
    simp only [Bool.and_eq_true, Bool.not_eq_true', List.isEmpty_eq_false_iff,
      List.all_eq_true] at h
    exact ⟨fun hn => absurd hn (by simp), fun hn => absurd ⟨hn.1.ne_nil, hn.1.isDigit⟩ h⟩

/-! ## Numerals of numbers -/

lemma digits_numeral (n : Nat) : Digits (numeral n) :=
  ⟨Nat.toDigits_ne_nil, fun _ hc => Nat.isDigit_of_mem_toDigits (by decide) (by decide) hc⟩

lemma digitsValue_numeral (n : Nat) : digitsValue (numeral n) = n := by
  rw [digitsValue, ← Nat.ofDigitChars_eq_foldl, numeral]
  exact Nat.ofDigitChars_toDigits (by decide) (by decide)

/-- The characters of numbers that may be negative or have a fraction. -/
def IsNumeric (c : Char) : Prop :=
  c.isDigit = true ∨ c = '.' ∨ c = '-'

/-! ## Words -/

/-- The text denotes a number: it consists of digits, and a plus sign may stand before them. -/
inductive Denotes : List Char → Nat → Prop
  | digits {cs : List Char} (h : Digits cs) : Denotes cs (digitsValue cs)
  | plus {cs : List Char} (h : Digits cs) : Denotes ('+' :: cs) (digitsValue cs)

lemma withoutPlus_plus (cs : List Char) : withoutPlus ('+' :: cs) = cs := by
  simp [withoutPlus, afterStart?]

lemma withoutPlus_of_ne {c : Char} (h : c ≠ '+') (cs : List Char) :
    withoutPlus (c :: cs) = c :: cs := by
  simp [withoutPlus, afterStart?, Ne.symm h]

lemma Digits.withoutPlus_eq (h : Digits cs) : withoutPlus cs = cs := by
  cases cs with
  | nil => rfl
  | cons c cs =>
    refine withoutPlus_of_ne ?_ cs
    rintro rfl
    exact absurd (h.isDigit '+' List.mem_cons_self) (by decide)

lemma denotes_iff : Denotes cs n ↔ natural? (withoutPlus cs) = some n := by
  rw [natural?_eq_some_iff]
  constructor
  · rintro (h | h)
    · rw [h.withoutPlus_eq]
      exact ⟨h, rfl⟩
    · rw [withoutPlus_plus]
      exact ⟨h, rfl⟩
  · rintro ⟨h, rfl⟩
    cases cs with
    | nil => exact absurd rfl h.ne_nil
    | cons c cs =>
      by_cases hplus : c = '+'
      · subst hplus
        rw [withoutPlus_plus] at h ⊢
        exact .plus h
      · rw [withoutPlus_of_ne hplus] at h ⊢
        exact .digits h

/-- Words are the numbers that fit 64 bits. -/
lemma word?_eq_some_iff {w : UInt64} : word? cs = some w ↔ Denotes cs w.toNat := by
  rw [denotes_iff, word?]
  cases natural? (withoutPlus cs) with
  | none => simp
  | some n =>
    dsimp only
    split
    · rename_i hfits
      have hword : (UInt64.ofNat n).toNat = n :=
        UInt64.toNat_ofNat'.trans (Nat.mod_eq_of_lt hfits)
      rw [Option.some.injEq, Option.some.injEq, ← UInt64.toNat_inj, hword]
    · rename_i hlarge
      simp only [Option.some.injEq, reduceCtorEq, false_iff]
      rintro rfl
      exact hlarge w.toNat_lt

lemma Denotes.chars (h : Denotes cs n) : ∀ c ∈ cs, c.isDigit = true ∨ c = '+' := by
  rcases h with h | h
  · exact fun c hc => .inl (h.isDigit c hc)
  · rw [List.forall_mem_cons]
    exact ⟨.inr rfl, fun c hc => .inl (h.isDigit c hc)⟩

/-! ## Decimal fractions -/

/-- A decimal fraction as it is written: digits, and a point and more digits if it has one.  There
is a digit on at least one side of the point. -/
structure Amount where
  /-- The digits before the point. -/
  whole : List Char
  /-- The digits behind the point, if there is one. -/
  places : Option (List Char)
  digits : Digits (whole ++ places.getD [])

/-- How a fraction is written. -/
def Amount.text (a : Amount) : List Char :=
  a.whole ++ a.places.elim [] ('.' :: ·)

/-- The fraction that is meant. -/
def Amount.fraction (a : Amount) : Fraction :=
  ⟨digitsValue (a.whole ++ a.places.getD []), (a.places.getD []).length⟩

/-- A natural number is written without a point. -/
def Amount.ofNat (n : Nat) : Amount :=
  ⟨numeral n, none, by simpa using digits_numeral n⟩

lemma Amount.text_ofNat (n : Nat) : (Amount.ofNat n).text = numeral n :=
  List.append_nil _

lemma Amount.fraction_ofNat (n : Nat) : (Amount.ofNat n).fraction = ⟨n, 0⟩ := by
  simp [Amount.fraction, Amount.ofNat, digitsValue_numeral]

lemma Amount.chars (a : Amount) : ∀ c ∈ a.text, c.isDigit = true ∨ c = '.' := by
  obtain ⟨whole, places, hdigits⟩ := a
  intro c hc
  cases places with
  | none =>
    rw [Amount.text, Option.elim_none, List.append_nil] at hc
    exact .inl (hdigits.isDigit c (List.mem_append_left _ hc))
  | some places =>
    rw [Amount.text, Option.elim_some, List.mem_append, List.mem_cons] at hc
    rcases hc with hc | hc | hc
    · exact .inl (hdigits.isDigit c (List.mem_append_left _ hc))
    · exact .inr hc
    · exact .inl (hdigits.isDigit c (List.mem_append_right _ hc))

lemma Amount.text_ne_nil (a : Amount) : a.text ≠ [] := by
  obtain ⟨whole, places, hdigits⟩ := a
  intro hnil
  rw [Amount.text, List.append_eq_nil_iff] at hnil
  cases places with
  | none => exact hdigits.ne_nil (by simpa using hnil.1)
  | some places => exact absurd hnil.2 (by simp)

/-- What is read as a fraction is how a fraction is written. -/
lemma fraction?_eq_some_iff {f : Fraction} :
    fraction? cs = some f ↔ ∃ a : Amount, a.text = cs ∧ a.fraction = f := by
  rw [fraction?]
  constructor
  · intro h
    split at h
    · obtain ⟨n, hn, rfl⟩ := Option.map_eq_some_iff.1 h
      obtain ⟨hdigits, rfl⟩ := natural?_eq_some_iff.1 hn
      exact ⟨⟨cs, none, by simpa using hdigits⟩, by simp [Amount.text], by simp [Amount.fraction]⟩
    · rename_i whole places hcut
      obtain ⟨n, hn, rfl⟩ := Option.map_eq_some_iff.1 h
      obtain ⟨hdigits, rfl⟩ := natural?_eq_some_iff.1 hn
      obtain ⟨c, rfl, hc, -⟩ := cutAtFirst_eq_some_iff.1 hcut
      obtain rfl := beq_iff_eq.1 hc
      exact ⟨⟨whole, some places, hdigits⟩, rfl, rfl⟩
  · rintro ⟨⟨whole, places, hdigits⟩, rfl, rfl⟩
    -- no digit is a point
    have hpoint : ∀ c ∈ whole, (c == '.') = false := by
      intro c hc
      rw [beq_eq_false_iff_ne]
      rintro rfl
      exact absurd (hdigits.isDigit '.' (List.mem_append_left _ hc)) (by decide)
    cases places with
    | none =>
      have hcut : cutAtFirst (· == '.') (whole ++ []) = none := by
        rwa [List.append_nil, cutAtFirst_eq_none_iff]
      simp only [Amount.text, Option.elim_none, hcut, Option.map_eq_some_iff]
      exact ⟨_, natural?_eq_some_iff.2 ⟨hdigits, rfl⟩, rfl⟩
    | some places =>
      simp only [Amount.text, Option.elim_some, cutAtFirst_append hpoint (beq_self_eq_true '.'),
        Option.map_eq_some_iff]
      exact ⟨_, natural?_eq_some_iff.2 ⟨hdigits, rfl⟩, rfl⟩

end Admission.Text
