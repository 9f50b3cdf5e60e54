/-
# Where a source is cut

Cutting finds the leftmost opening braces, then the leftmost closing ones behind them, and goes on
from there.  So the cuts of a source are the one way to write it as texts and actions in which no
braces stand earlier than they have to (`cutText_eq_ok_iff`), and a source has no cuts if an action
that is opened behind such cuts is never closed (`cutText_eq_error_iff`).  It follows that a source
and another one behind it are cut where each of them is cut on its own, unless a brace at the end of
the first meets one at the start of the second (`cutText_append`).
-/
import Admission.Proofs.Template.Plain
import Admission.Proofs.Outcomes

namespace Admission.Template

/-! ## Cuts and what they were cut from -/

/-- Actions with the texts that follow them, as they are written. -/
def spelled : List (List Char × List Char) → List Char
  | [] => []
  | (inside, after) :: more => '{' :: '{' :: (inside ++ '}' :: '}' :: (after ++ spelled more))

/-- The source that has been cut. -/
def Cuts.source (cuts : Cuts) : List Char :=
  cuts.head ++ spelled cuts.actions

/-- The inside of an action runs up to the first closing braces. -/
def Shut (inside : List Char) : Prop :=
  ¬ ['}', '}'] <:+: inside ++ ['}']

instance (inside : List Char) : Decidable (Shut inside) :=
  inferInstanceAs (Decidable (¬ _))

/-- Each text runs up to the first opening braces, each action up to the first closing ones. -/
def LeftmostFrom : List Char → List (List Char × List Char) → Prop
  | text, [] => Plain text
  | text, (inside, after) :: more => Plain (text ++ ['{']) ∧ Shut inside ∧ LeftmostFrom after more

instance decidableLeftmostFrom : ∀ text actions, Decidable (LeftmostFrom text actions)
  | text, [] => inferInstanceAs (Decidable (Plain text))
  | _, (_, after) :: more =>
    have := decidableLeftmostFrom after more
    inferInstanceAs (Decidable (_ ∧ _ ∧ _))

/-- No braces that open or close an action stand earlier than they have to. -/
def Cuts.Leftmost (cuts : Cuts) : Prop :=
  LeftmostFrom cuts.head cuts.actions

instance (cuts : Cuts) : Decidable cuts.Leftmost :=
  decidableLeftmostFrom cuts.head cuts.actions

section pairs

variable {c d : Char} {cs ds : List Char}

lemma pair_isInfix_cons_iff :
    [d, d] <:+: c :: cs ↔ (c = d ∧ cs.head? = some d) ∨ [d, d] <:+: cs := by
  rw [List.infix_cons_iff]
  cases cs with
  | nil => simp
  | cons e cs => simp [List.cons_prefix_cons, eq_comm]

lemma plain_nil : Plain [] := by decide

lemma plain_brace : Plain ['{'] := by decide

lemma shut_nil : Shut [] := by decide

lemma plain_cons_iff : Plain (c :: cs) ↔ ¬ (c = '{' ∧ cs.head? = some '{') ∧ Plain cs := by
  rw [Plain, pair_isInfix_cons_iff, not_or, Plain]

lemma shut_cons_iff : Shut (c :: cs) ↔ ¬ (c = '}' ∧ (cs ++ ['}']).head? = some '}') ∧ Shut cs := by
  rw [Shut, List.cons_append, pair_isInfix_cons_iff, not_or, Shut]

lemma head?_append_cons (cs ds : List Char) : (cs ++ d :: ds).head? = (cs ++ [d]).head? := by
  rw [List.head?_append, List.head?_append]
  rfl

/-- Braces that are apart in two texts are apart in both together, unless they meet at the seam. -/
lemma not_pair_isInfix_append (hcs : ¬ [d, d] <:+: cs) (hds : ¬ [d, d] <:+: ds)
    (hseam : cs.getLast? ≠ some d) : ¬ [d, d] <:+: cs ++ ds := by
  induction cs with
  | nil => exact hds
  | cons c cs ih =>
    rw [pair_isInfix_cons_iff, not_or] at hcs
    rw [List.cons_append, pair_isInfix_cons_iff, not_or]
    cases cs with
    | nil => exact ⟨fun h => hseam (by rw [h.1]; rfl), hds⟩
    | cons e cs => exact ⟨hcs.1, ih hcs.2 (by simpa [List.getLast?_cons_cons] using hseam)⟩

end pairs

/-! ## Cutting finds the leftmost cuts -/

/-- A character can be put before a text that it does not open an action with. -/
lemma LeftmostFrom.cons {c : Char} {text : List Char} {actions : List (List Char × List Char)}
    (h : LeftmostFrom text actions)
    (hopens : ¬ (c = '{' ∧ (text ++ spelled actions).head? = some '{')) :
    LeftmostFrom (c :: text) actions := by
  cases actions with
  | nil =>
    rw [spelled, List.append_nil] at hopens
    exact plain_cons_iff.2 ⟨hopens, h⟩
  | cons action more =>
    -- the brace behind the text is that of the action
    rw [spelled, head?_append_cons] at hopens
    exact ⟨plain_cons_iff.2 ⟨hopens, h.1⟩, h.2⟩

/-- Cuts that have been found are the leftmost ones.  The two functions call each other, and so do
the two statements. -/
lemma leftmost_of_cutText :
    (∀ offset cs cuts, cutText offset cs = .ok cuts → cuts.source = cs ∧ cuts.Leftmost) ∧
      ∀ opened offset cs inside after, cutAction opened offset cs = .ok (inside, after) →
        cs = inside ++ '}' :: '}' :: after.source ∧ Shut inside ∧ after.Leftmost := by
  apply cutText.mutual_induct
  case case1 =>
    intro offset cuts h
    rw [cutText] at h
    obtain rfl := Except.ok.inj h
    exact ⟨rfl, plain_nil⟩
  case case2 =>
    intro offset c cuts h
    rw [cutText] at h
    obtain rfl := Except.ok.inj h
    exact ⟨rfl, plain_cons_iff.2 ⟨by simp, plain_nil⟩⟩
  case case3 =>
    intro offset c d cs hopens ih cuts h
    rw [cutText, if_pos hopens] at h
    obtain ⟨⟨inside, after⟩, haction, rfl⟩ := map_eq_ok_iff.1 h
    obtain ⟨rfl, hshut, hafter⟩ := ih inside after haction
    obtain ⟨rfl, rfl⟩ := hopens
    exact ⟨rfl, plain_brace, hshut, hafter⟩
  case case4 =>
    intro offset c d cs hopens ih cuts h
    rw [cutText, if_neg hopens] at h
    obtain ⟨rest, hrest, rfl⟩ := map_eq_ok_iff.1 h
    obtain ⟨hsource, hleftmost⟩ := ih rest hrest
    refine ⟨congrArg (c :: ·) hsource, LeftmostFrom.cons hleftmost ?_⟩
    rw [Cuts.source] at hsource
    rw [hsource]
    simpa using hopens
  case case5 =>
    intro opened offset inside after h
    exact absurd h (by simp [cutAction])
  case case6 =>
    intro opened offset c inside after h
    exact absurd h (by simp [cutAction])
  case case7 =>
    intro opened offset c d cs hcloses ih inside after h
    rw [cutAction, if_pos hcloses] at h
    obtain ⟨rest, hrest, hparts⟩ := map_eq_ok_iff.1 h
    obtain ⟨rfl, rfl⟩ := Prod.mk.inj hparts
    obtain ⟨rfl, hleftmost⟩ := ih rest hrest
    obtain ⟨rfl, rfl⟩ := hcloses
    exact ⟨rfl, shut_nil, hleftmost⟩
  case case8 =>
    intro opened offset c d cs hcloses ih inside after h
    rw [cutAction, if_neg hcloses] at h
    obtain ⟨⟨rest, after'⟩, hrest, hparts⟩ := map_eq_ok_iff.1 h
    obtain ⟨rfl, rfl⟩ := Prod.mk.inj hparts
    obtain ⟨hsource, hshut, hleftmost⟩ := ih rest after' hrest
    refine ⟨congrArg (c :: ·) hsource, shut_cons_iff.2 ⟨?_, hshut⟩, hleftmost⟩
    -- the character behind `c` is the next one of the inside, or a closing brace
    rintro ⟨rfl, hnext⟩
    refine hcloses ⟨rfl, ?_⟩
    cases rest with
    | nil => exact (List.cons.inj hsource).1
    | cons e rest =>
      rw [(List.cons.inj hsource).1]
      exact Option.some.inj hnext

/-! ## The leftmost cuts are found -/

lemma cutText_cons {offset : Nat} {c : Char} {cs : List Char} (hcs : cs ≠ [])
    (h : ¬ (c = '{' ∧ cs.head? = some '{')) :
    cutText offset (c :: cs) = (cutText (offset + c.utf8Size) cs).map fun cuts =>
      { cuts with head := c :: cuts.head } := by
  cases cs with
  | nil => exact absurd rfl hcs
  | cons d cs => rw [cutText, if_neg (by simpa using h)]

lemma cutAction_cons {opened offset : Nat} {c : Char} {cs : List Char} (hcs : cs ≠ [])
    (h : ¬ (c = '}' ∧ cs.head? = some '}')) :
    cutAction opened offset (c :: cs) =
      (cutAction opened (offset + c.utf8Size) cs).map fun (inside, after) =>
        (c :: inside, after) := by
  cases cs with
  | nil => exact absurd rfl hcs
  | cons d cs => rw [cutAction, if_neg (by simpa using h)]

/-- The bytes that a text takes up. -/
def byteLength (cs : List Char) : Nat :=
  (String.ofList cs).utf8ByteSize

lemma byteLength_cons (c : Char) (cs : List Char) :
    byteLength (c :: cs) = c.utf8Size + byteLength cs := by
  rw [byteLength, ← List.singleton_append, String.ofList_append, String.utf8ByteSize_append,
    ← String.singleton_eq_ofList, String.utf8ByteSize_singleton]
  rfl

lemma byteLength_append (cs ds : List Char) :
    byteLength (cs ++ ds) = byteLength cs + byteLength ds := by
  rw [byteLength, String.ofList_append, String.utf8ByteSize_append]
  rfl

/-- Behind an action the source is cut from outside of all actions again. -/
lemma cutAction_of_shut {inside : List Char} (h : Shut inside) (opened offset : Nat)
    (rest : List Char) :
    cutAction opened offset (inside ++ '}' :: '}' :: rest) =
      (cutText (offset + byteLength inside + 2) rest).map fun after => (inside, after) := by
  induction inside generalizing offset with
  | nil =>
    rw [List.nil_append, cutAction, if_pos ⟨rfl, rfl⟩]
    rfl
  | cons c inside ih =>
    rw [shut_cons_iff, ← head?_append_cons inside ('}' :: rest)] at h
    rw [List.cons_append, cutAction_cons (by simp) h.1, ih h.2, byteLength_cons, ← Nat.add_assoc]
    cases cutText (offset + c.utf8Size + byteLength inside + 2) rest <;> rfl

/-- Behind a text the source is cut from inside of the action that is opened there. -/
lemma cutText_of_plain_append {text : List Char} (h : Plain (text ++ ['{'])) (offset : Nat)
    (rest : List Char) :
    cutText offset (text ++ '{' :: '{' :: rest) =
      (cutAction (offset + byteLength text) (offset + byteLength text + 2) rest).map
        fun (inside, after) => ⟨text, (inside, after.head) :: after.actions⟩ := by
  induction text generalizing offset with
  | nil =>
    rw [List.nil_append, cutText, if_pos ⟨rfl, rfl⟩]
    rfl
  | cons c text ih =>
    rw [List.cons_append, plain_cons_iff, ← head?_append_cons text ('{' :: rest)] at h
    rw [List.cons_append, cutText_cons (by simp) h.1, ih h.2, byteLength_cons, ← Nat.add_assoc]
    cases cutAction (offset + c.utf8Size + byteLength text)
      (offset + c.utf8Size + byteLength text + 2) rest <;> rfl

lemma cutText_of_leftmost {text : List Char} {actions : List (List Char × List Char)}
    (h : LeftmostFrom text actions) (offset : Nat) :
    cutText offset (text ++ spelled actions) = .ok ⟨text, actions⟩ := by
  induction actions generalizing text offset with
  | nil =>
    rw [spelled, List.append_nil]
    exact cutText_of_plain h offset
  | cons action more ih =>
    obtain ⟨inside, after⟩ := action
    obtain ⟨htext, hshut, hafter⟩ := h
    rw [spelled, cutText_of_plain_append htext, cutAction_of_shut hshut, ih hafter]
    rfl

/-- A source has the cuts that it is written with, if they are the leftmost ones, and no others. -/
lemma cutText_eq_ok_iff {offset : Nat} {cs : List Char} {cuts : Cuts} :
    cutText offset cs = .ok cuts ↔ cuts.source = cs ∧ cuts.Leftmost := by
  constructor
  · exact leftmost_of_cutText.1 offset cs cuts
  · rintro ⟨rfl, hleftmost⟩
    exact cutText_of_leftmost hleftmost offset

/-! ## Actions without an end -/

/-- Each text runs up to the first opening braces, the last one too, and each action up to the first
closing ones. -/
def OpeningFrom : List Char → List (List Char × List Char) → Prop
  | text, [] => Plain (text ++ ['{'])
  | text, (inside, after) :: more => Plain (text ++ ['{']) ∧ Shut inside ∧ OpeningFrom after more

instance decidableOpeningFrom : ∀ text actions, Decidable (OpeningFrom text actions)
  | text, [] => inferInstanceAs (Decidable (Plain (text ++ ['{'])))
  | _, (_, after) :: more =>
    have := decidableOpeningFrom after more
    inferInstanceAs (Decidable (_ ∧ _ ∧ _))

/-- No braces stand earlier than they have to, if one more action is opened behind the cuts. -/
def Cuts.Opening (cuts : Cuts) : Prop :=
  OpeningFrom cuts.head cuts.actions

instance (cuts : Cuts) : Decidable cuts.Opening :=
  decidableOpeningFrom cuts.head cuts.actions

lemma OpeningFrom.cons {c : Char} {text : List Char} {actions : List (List Char × List Char)}
    (h : OpeningFrom text actions)
    (hopens : ¬ (c = '{' ∧ (text ++ spelled actions ++ ['{']).head? = some '{')) :
    OpeningFrom (c :: text) actions := by
  cases actions with
  | nil =>
    rw [spelled, List.append_nil] at hopens
    exact plain_cons_iff.2 ⟨hopens, h⟩
  | cons action more =>
    rw [spelled, List.append_assoc, List.cons_append, head?_append_cons] at hopens
    exact ⟨plain_cons_iff.2 ⟨hopens, h.1⟩, h.2⟩

/-- Where no closing braces follow, the action that is open is reported. -/
lemma cutAction_of_not_closing {cs : List Char} (h : ¬ ['}', '}'] <:+: cs) (opened offset : Nat) :
    cutAction opened offset cs = .error (.unclosedAction opened) := by
  induction cs generalizing offset with
  | nil => rw [cutAction]
  | cons c cs ih =>
    rw [pair_isInfix_cons_iff, not_or] at h
    cases cs with
    | nil => rw [cutAction]
    | cons d cs =>
      rw [cutAction_cons (by simp) h.1, ih h.2]
      rfl

lemma cutText_of_opening {text rest : List Char} {actions : List (List Char × List Char)}
    (h : OpeningFrom text actions) (hrest : ¬ ['}', '}'] <:+: rest) (offset : Nat) :
    cutText offset (text ++ spelled actions ++ '{' :: '{' :: rest) =
      .error (.unclosedAction (offset + byteLength (text ++ spelled actions))) := by
  induction actions generalizing text offset with
  | nil =>
    rw [spelled, List.append_nil, cutText_of_plain_append h, cutAction_of_not_closing hrest]
    rfl
  | cons action more ih =>
    obtain ⟨inside, after⟩ := action
    obtain ⟨htext, hshut, hafter⟩ := h
    have hsource : text ++ spelled ((inside, after) :: more) ++ '{' :: '{' :: rest =
        text ++ '{' :: '{' :: (inside ++ '}' :: '}' ::
          (after ++ spelled more ++ '{' :: '{' :: rest)) := by
      simp [spelled]
    have hlength : byteLength (text ++ spelled ((inside, after) :: more)) =
        byteLength text + 2 + byteLength inside + 2 + byteLength (after ++ spelled more) := by
      have hopening : '{'.utf8Size = 1 := rfl
      have hclosing : '}'.utf8Size = 1 := rfl
      simp only [spelled, byteLength_append, byteLength_cons, hopening, hclosing]
      omega
    rw [hsource, cutText_of_plain_append htext, cutAction_of_shut hshut, ih hafter, hlength]
    simp only [← Nat.add_assoc]
    rfl

/-- A source that cannot be cut opens an action, behind leftmost cuts, that is never closed.  The
two statements go together as the two functions do. -/
lemma opening_of_cutText :
    (∀ offset cs e, cutText offset cs = .error e → ∃ (cuts : Cuts) (rest : List Char),
      cuts.Opening ∧ ¬ ['}', '}'] <:+: rest ∧ cs = cuts.source ++ '{' :: '{' :: rest) ∧
    ∀ opened offset cs e, cutAction opened offset cs = .error e → ¬ ['}', '}'] <:+: cs ∨
      ∃ (inside : List Char) (cuts : Cuts) (rest : List Char), Shut inside ∧ cuts.Opening ∧
        ¬ ['}', '}'] <:+: rest ∧
          cs = inside ++ '}' :: '}' :: (cuts.source ++ '{' :: '{' :: rest) := by
  apply cutText.mutual_induct
  case case1 =>
    intro offset e h
    exact absurd h (by simp [cutText])
  case case2 =>
    intro offset c e h
    exact absurd h (by simp [cutText])
  case case3 =>
    intro offset c d cs hopens ih e h
    rw [cutText, if_pos hopens, map_eq_error_iff] at h
    obtain ⟨rfl, rfl⟩ := hopens
    rcases ih e h with hrest | ⟨inside, cuts, rest, hshut, hcuts, hrest, rfl⟩
    · exact ⟨⟨[], []⟩, cs, plain_brace, hrest, rfl⟩
    · exact ⟨⟨[], (inside, cuts.head) :: cuts.actions⟩, rest, ⟨plain_brace, hshut, hcuts⟩, hrest,
        by simp [Cuts.source, spelled]⟩
  case case4 =>
    intro offset c d cs hopens ih e h
    rw [cutText, if_neg hopens, map_eq_error_iff] at h
    obtain ⟨cuts, rest, hcuts, hrest, hsource⟩ := ih e h
    refine ⟨⟨c :: cuts.head, cuts.actions⟩, rest, OpeningFrom.cons hcuts ?_, hrest, ?_⟩
    · -- what stands behind `c` is `d`, or a brace that opens the action
      have hnext : (cuts.source ++ ['{']).head? = some d := by
        rw [← head?_append_cons, ← hsource]
        rfl
      rw [← Cuts.source, hnext]
      simpa using hopens
    · rw [hsource]
      rfl
  case case5 =>
    intro opened offset e h
    exact .inl (by simp)
  case case6 =>
    intro opened offset c e h
    exact .inl (by simp [pair_isInfix_cons_iff])
  case case7 =>
    intro opened offset c d cs hcloses ih e h
    rw [cutAction, if_pos hcloses, map_eq_error_iff] at h
    obtain ⟨rfl, rfl⟩ := hcloses
    obtain ⟨cuts, rest, hcuts, hrest, rfl⟩ := ih e h
    exact .inr ⟨[], cuts, rest, shut_nil, hcuts, hrest, rfl⟩
  case case8 =>
    intro opened offset c d cs hcloses ih e h
    rw [cutAction, if_neg hcloses, map_eq_error_iff] at h
    rcases ih e h with hrest | ⟨inside, cuts, rest, hshut, hcuts, hrest, hsource⟩
    · exact .inl (by rw [pair_isInfix_cons_iff, not_or]; exact ⟨by simpa using hcloses, hrest⟩)
    · refine .inr ⟨c :: inside, cuts, rest, shut_cons_iff.2 ⟨?_, hshut⟩, hcuts, hrest, ?_⟩
      · have hnext : (inside ++ ['}']).head? = some d := by
          rw [← head?_append_cons, ← hsource]
          rfl
        rw [hnext]
        simpa using hcloses
      · rw [hsource]
        rfl

/-- A source has no cuts exactly if an action that is opened behind leftmost cuts is never closed.
The fault tells where the action starts. -/
lemma cutText_eq_error_iff {offset : Nat} {cs : List Char} {e : Error} :
    cutText offset cs = .error e ↔ ∃ (cuts : Cuts) (rest : List Char), cuts.Opening ∧
      ¬ ['}', '}'] <:+: rest ∧ cs = cuts.source ++ '{' :: '{' :: rest ∧
        e = .unclosedAction (offset + byteLength cuts.source) := by
  constructor
  · intro h
    obtain ⟨cuts, rest, hcuts, hrest, rfl⟩ := opening_of_cutText.1 offset cs e h
    rw [Cuts.source, cutText_of_opening hcuts hrest] at h
    exact ⟨cuts, rest, hcuts, hrest, rfl, (Except.error.inj h).symm⟩
  · rintro ⟨cuts, rest, hcuts, hrest, rfl, rfl⟩
    exact cutText_of_opening hcuts hrest offset

/-! ## One source after another -/

/-- A text and actions followed by the cuts of another source.  The texts at the seam become one. -/
def followedBy (next : Cuts) : List Char → List (List Char × List Char) → Cuts
  | text, [] => ⟨text ++ next.head, next.actions⟩
  | text, (inside, after) :: more =>
    let rest := followedBy next after more
    ⟨text, (inside, rest.head) :: rest.actions⟩

/-- The cuts of one source followed by those of another. -/
def Cuts.append (cuts next : Cuts) : Cuts :=
  followedBy next cuts.head cuts.actions

lemma source_followedBy (next : Cuts) (text : List Char)
    (actions : List (List Char × List Char)) :
    (followedBy next text actions).source = text ++ spelled actions ++ next.source := by
  induction actions generalizing text with
  | nil => simp [followedBy, spelled, Cuts.source]
  | cons action more ih =>
    have hrest := ih action.2
    rw [Cuts.source] at hrest
    simp [followedBy, spelled, Cuts.source, hrest]

lemma leftmost_followedBy {next : Cuts} {text : List Char}
    {actions : List (List Char × List Char)} (h : LeftmostFrom text actions)
    (hnext : next.Leftmost) (hseam : (text ++ spelled actions).getLast? ≠ some '{') :
    (followedBy next text actions).Leftmost := by
  induction actions generalizing text with
  | nil =>
    rw [spelled, List.append_nil] at hseam
    obtain ⟨head, actions⟩ := next
    cases actions with
    | nil => exact not_pair_isInfix_append h hnext hseam
    | cons action more =>
      refine ⟨?_, hnext.2⟩
      rw [followedBy, List.append_assoc]
      exact not_pair_isInfix_append h hnext.1 hseam
  | cons action more ih =>
    obtain ⟨inside, after⟩ := action
    refine ⟨h.1, h.2.1, ih h.2.2 fun hlast => hseam ?_⟩
    -- the source goes on behind the action, so it ends where the rest ends
    simp [spelled, List.getLast?_append, List.getLast?_cons, hlast]

/-- A source and another one behind it are cut where each of them is cut. -/
lemma cutText_append {offset offset' : Nat} {cs ds : List Char} {cuts next : Cuts}
    (h : cutText offset cs = .ok cuts) (hnext : cutText offset' ds = .ok next)
    (hseam : cs.getLast? ≠ some '{') : cutText offset (cs ++ ds) = .ok (cuts.append next) := by
  obtain ⟨rfl, hleftmost⟩ := cutText_eq_ok_iff.1 h
  obtain ⟨rfl, hleftmost'⟩ := cutText_eq_ok_iff.1 hnext
  rw [cutText_eq_ok_iff]
  exact ⟨source_followedBy next _ _, leftmost_followedBy hleftmost hleftmost' hseam⟩

end Admission.Template
