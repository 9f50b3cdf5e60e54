/-
# The characters of numbers

A finite number is written with digits and at most a sign and a point; there is no power of ten in
it.
-/
import Admission.Binary64.Signed
import Admission.Proofs.Text.Numerals

namespace Admission.Binary64

open Text

lemma mem_of_mem_stripEnd {p : Char → Bool} {cs : List Char} {c : Char} (h : c ∈ stripEnd p cs) :
    c ∈ cs := by
  rw [stripEnd, List.mem_reverse] at h
  exact List.mem_reverse.1 ((List.dropWhile_sublist p).subset h)

lemma isNumeric_of_mem_positional (d : Decimal) : ∀ c ∈ d.positional.toList, IsNumeric c := by
  have hdigits : ∀ c ∈ numeral d.digits, IsNumeric c :=
    fun c hc => .inl ((digits_numeral _).isDigit c hc)
  have hzeros : ∀ (k : Nat), ∀ c ∈ List.replicate k '0', IsNumeric c := by
    intro k c hc
    rw [List.eq_of_mem_replicate hc]
    exact .inl (by decide)
  intro c hc
  rw [Decimal.positional] at hc
  split at hc
  · rw [String.toList_ofList, List.mem_append] at hc
    rcases hc with hc | hc
    · exact hdigits c hc
    · exact hzeros _ c hc
  · dsimp only at hc
    rw [String.toList_ofList] at hc
    generalize hpadded : List.replicate _ '0' ++ numeral d.digits = padded at hc
    have hall : ∀ c ∈ padded, IsNumeric c := by
      rw [← hpadded]
      exact List.forall_mem_append.2 ⟨hzeros _, hdigits⟩
    split at hc
    · exact hall c (List.mem_of_mem_take hc)
    · rcases List.mem_append.1 hc with hc | hc
      · exact hall c (List.mem_of_mem_take hc)
      · rcases List.mem_cons.1 hc with rfl | hc
        · exact .inr (.inl rfl)
        · exact hall c (List.mem_of_mem_drop (mem_of_mem_stripEnd hc))

lemma isNumeric_of_mem_render (negative : Bool) (magnitude : Binary64) :
    ∀ c ∈ (Signed.finite negative magnitude).render.toList, IsNumeric c := by
  intro c hc
  rw [Signed.render, String.toList_append, List.mem_append] at hc
  rcases hc with hc | hc
  · cases negative with
    | true =>
      obtain rfl := List.mem_singleton.1 hc
      exact .inr (.inr rfl)
    | false => exact absurd hc (by simp)
  · exact isNumeric_of_mem_positional _ c hc

end Admission.Binary64
