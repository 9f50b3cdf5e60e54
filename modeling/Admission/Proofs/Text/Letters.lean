/-
# Letters and digits

Names and methods consist of visible ASCII characters, which are no blanks
(`not_isBlank_of_visible`).
Writing a text in capital letters changes nothing that a comparison without regard to case could
see (`lower_upper`), and what such a comparison takes for the same is the same in capital letters
(`upper_eq_of_sameIgnoringCase`).
-/
import Admission.Text.Blank
import Admission.Text.Case
import Mathlib.Tactic.Common

namespace Admission.Text

variable {c : Char}

/-- There are blanks below and above the visible ASCII characters, but none among them. -/
lemma not_isBlank_of_visible (h : 33 ≤ c.toNat ∧ c.toNat ≤ 126) : isBlank c = false := by
  rw [Bool.eq_false_iff]
  intro hblank
  simp only [isBlank, Bool.or_eq_true, Bool.and_eq_true, decide_eq_true_eq, beq_iff_eq] at hblank
  omega

lemma not_isBlank_of_isAlphanum (h : c.isAlphanum = true) : isBlank c = false := by
  delta Char.isAlphanum Char.isAlpha Char.isUpper Char.isLower Char.isDigit at h
  simp only [Bool.or_eq_true, Bool.and_eq_true, decide_eq_true_eq, ge_iff_le,
    UInt32.le_iff_toNat_le] at h
  change ((65 ≤ c.toNat ∧ c.toNat ≤ 90) ∨ (97 ≤ c.toNat ∧ c.toNat ≤ 122)) ∨
    (48 ≤ c.toNat ∧ c.toNat ≤ 57) at h
  exact not_isBlank_of_visible (by omega)

lemma toNat_toUpper (c : Char) :
    c.toUpper.toNat = if 97 ≤ c.toNat ∧ c.toNat ≤ 122 then c.toNat - 32 else c.toNat := by
  delta Char.toUpper
  split
  · rename_i hsmall
    have hrange : 97 ≤ c.toNat ∧ c.toNat ≤ 122 := hsmall
    rw [if_pos hrange, Char.toNat, UInt32.toNat_add]
    change (c.toNat + 4294967264) % 4294967296 = c.toNat - 32
    omega
  · rename_i hother
    exact (if_neg (c := 97 ≤ c.toNat ∧ c.toNat ≤ 122) hother).symm

lemma toNat_toLower (c : Char) :
    c.toLower.toNat = if 65 ≤ c.toNat ∧ c.toNat ≤ 90 then c.toNat + 32 else c.toNat := by
  delta Char.toLower
  split
  · rename_i hcapital
    have hrange : 65 ≤ c.toNat ∧ c.toNat ≤ 90 := hcapital
    rw [if_pos hrange, Char.toNat, UInt32.toNat_add]
    change (c.toNat + 32) % 4294967296 = c.toNat + 32
    omega
  · rename_i hother
    exact (if_neg (c := 65 ≤ c.toNat ∧ c.toNat ≤ 90) hother).symm

lemma toLower_toUpper (c : Char) : c.toUpper.toLower = c.toLower := by
  rw [← Char.toNat_inj, toNat_toLower, toNat_toUpper, toNat_toLower]
  split_ifs <;> omega

lemma toUpper_toLower (c : Char) : c.toLower.toUpper = c.toUpper := by
  rw [← Char.toNat_inj, toNat_toUpper, toNat_toLower, toNat_toUpper]
  split_ifs <;> omega

lemma lower_upper (s : String) : lower (upper s) = lower s := by
  rw [lower, upper, String.toList_ofList, List.map_map, lower]
  congr 2
  exact funext toLower_toUpper

lemma upper_lower (s : String) : upper (lower s) = upper s := by
  rw [upper, lower, String.toList_ofList, List.map_map, upper]
  congr 2
  exact funext toUpper_toLower

/-- Texts that differ at most in case are the same text in capital letters. -/
lemma upper_eq_of_sameIgnoringCase {s t : String} (h : sameIgnoringCase s t = true) :
    upper s = upper t := by
  rw [← upper_lower s, sameIgnoringCase_iff.1 h, upper_lower]

lemma sameIgnoringCase_upper (s t : String) :
    sameIgnoringCase (upper s) t = sameIgnoringCase s t := by
  rw [sameIgnoringCase, sameIgnoringCase, lower_upper]

end Admission.Text
