/-
# Cutting text

Functions that cut a text at a character, at both ends, or into runs.  Each keeps every
character that it does not cut away, in its place.
-/
namespace Admission.Text

/-- The parts of a text between the occurrences of a separator.  There is always one part more
than there are separators, so the empty text has one empty part. -/
def splitOn (sep : Char) : List Char → List (List Char)
  | [] => [[]]
  | c :: cs =>
    if c = sep then [] :: splitOn sep cs
    else
      match splitOn sep cs with
      | [] => [[c]]
      | part :: parts => (c :: part) :: parts

/-- What precedes and what follows the first character with the property `p`. -/
def cutAtFirst (p : Char → Bool) : List Char → Option (List Char × List Char)
  | [] => none
  | c :: cs =>
    if p c then some ([], cs)
    else (cutAtFirst p cs).map fun (before, after) => (c :: before, after)

/-- A text without the characters with the property `p` that it ends with. -/
def stripEnd (p : Char → Bool) (cs : List Char) : List Char :=
  (cs.reverse.dropWhile p).reverse

/-- A text without the characters with the property `p` at either end. -/
def strip (p : Char → Bool) (cs : List Char) : List Char :=
  stripEnd p (cs.dropWhile p)

/-- What follows `start` in a text that begins with it. -/
def afterStart? : List Char → List Char → Option (List Char)
  | [], cs => some cs
  | s :: start, c :: cs => if s = c then afterStart? start cs else none
  | _ :: _, [] => none

/-- What precedes `ending` in a text that ends with it. -/
def beforeEnd? (ending cs : List Char) : Option (List Char) :=
  (afterStart? ending.reverse cs.reverse).map List.reverse

/-- The longest runs of characters that agree on the property `p`, in order. -/
def runs (p : Char → Bool) : List Char → List (List Char)
  | [] => []
  | c :: cs =>
    match runs p cs with
    | (d :: run) :: more =>
      if p c = p d then (c :: d :: run) :: more else [c] :: (d :: run) :: more
    | rest => [c] :: rest

theorem splitOn_ne_nil (sep : Char) (cs : List Char) : splitOn sep cs ≠ [] := by
  cases cs with
  | nil => simp [splitOn]
  | cons c cs =>
    simp only [splitOn]
    split
    · simp
    · split <;> simp

theorem cutAtFirst_eq_none_iff {p : Char → Bool} {cs : List Char} :
    cutAtFirst p cs = none ↔ ∀ c ∈ cs, p c = false := by
  induction cs with
  | nil => simp [cutAtFirst]
  | cons c cs ih =>
    by_cases h : p c = true
    · simp [cutAtFirst, h]
    · simp [cutAtFirst, h, ih]

theorem cutAtFirst_append {p : Char → Bool} {c : Char} {before : List Char}
    (hbefore : ∀ d ∈ before, p d = false) (hc : p c = true) (after : List Char) :
    cutAtFirst p (before ++ c :: after) = some (before, after) := by
  induction before with
  | nil => simp [cutAtFirst, hc]
  | cons d before ih =>
    rw [List.forall_mem_cons] at hbefore
    simp [cutAtFirst, hbefore.1, ih hbefore.2]

theorem cutAtFirst_eq_some_iff {p : Char → Bool} {cs before after : List Char} :
    cutAtFirst p cs = some (before, after) ↔
      ∃ c, cs = before ++ c :: after ∧ p c = true ∧ ∀ d ∈ before, p d = false := by
  constructor
  · intro h
    induction cs generalizing before with
    | nil => exact absurd h (by simp [cutAtFirst])
    | cons c cs ih =>
      rw [cutAtFirst] at h
      split at h
      · rename_i hc
        obtain ⟨rfl, rfl⟩ := Prod.mk.inj (Option.some.inj h)
        exact ⟨c, rfl, hc, by simp⟩
      · rename_i hc
        obtain ⟨⟨front, rest⟩, hcut, hpair⟩ := Option.map_eq_some_iff.1 h
        obtain ⟨rfl, rfl⟩ := Prod.mk.inj hpair
        obtain ⟨d, rfl, hd, hfront⟩ := ih hcut
        exact ⟨d, rfl, hd, List.forall_mem_cons.2 ⟨Bool.eq_false_iff.2 hc, hfront⟩⟩
  · rintro ⟨c, rfl, hc, hbefore⟩
    exact cutAtFirst_append hbefore hc after

@[simp] theorem afterStart?_append (start cs : List Char) :
    afterStart? start (start ++ cs) = some cs := by
  induction start with
  | nil => rfl
  | cons s start ih => simpa [afterStart?] using ih

theorem afterStart?_eq_some_iff {start cs rest : List Char} :
    afterStart? start cs = some rest ↔ cs = start ++ rest := by
  induction start generalizing cs with
  | nil => simp [afterStart?, eq_comm]
  | cons s start ih =>
    cases cs with
    | nil => simp [afterStart?]
    | cons c cs =>
      by_cases h : s = c
      · simp [afterStart?, h, ih]
      · simp [afterStart?, h, Ne.symm h]

theorem beforeEnd?_eq_some_iff {ending cs rest : List Char} :
    beforeEnd? ending cs = some rest ↔ cs = rest ++ ending := by
  simp only [beforeEnd?, Option.map_eq_some_iff, afterStart?_eq_some_iff]
  constructor
  · rintro ⟨a, h, rfl⟩
    rw [← List.reverse_inj]
    simpa using h
  · rintro rfl
    exact ⟨rest.reverse, by simp, by simp⟩

end Admission.Text
