/-
# Templates that ask for the caller first

An anonymous request has no caller, so a template that reads a field of the caller can fail on it.
A block whose subject is the caller is a guard: its first branch runs only if there is a caller.
This file says when all reading of such fields is guarded (`Body.Guarded`), however the blocks are
nested and wherever they move the current value.

The main results are

* `Pipeline.readsCaller_of_eval_eq_error`: nothing but reading a field of the caller makes a checked
  pipeline fail;
* `Body.render_of_guarded`: a well kinded body in which this is guarded renders.

The argument rests on what no block can bring about: the current value is never the absent caller,
because a block moves it to true values only.
-/
import Admission.Proofs.Template.Soundness

namespace Admission.Template

/-! ## Reading fields of the caller -/

/-- The pipeline reads a field of the caller. -/
def Pipeline.ReadsCaller (p : Pipeline) : Prop :=
  ∃ field fields, p = .path ("Identity" :: field :: fields)

/-- The pipeline is the caller, where the current value is of kind `dot`. -/
def Pipeline.AsksForCaller (dot : Kind) (p : Pipeline) : Prop :=
  dot = .request ∧ p = .path ["Identity"]

/-- Every field of the caller is read in the first branch of a block that asks for the caller, at
any depth.  `asked` says that there is such a block around, and `dot` is the kind of the current
value. -/
def Body.Guarded (asked : Prop) (dot : Kind) : Body → Prop
  | .done => True
  | .text _ rest => rest.Guarded asked dot
  | .print value rest => (value.ReadsCaller → asked) ∧ rest.Guarded asked dot
  | .branch block subject first second rest =>
    (subject.ReadsCaller → asked) ∧
      (∀ kind, subject.kind? dot = some kind →
        first.Guarded (asked ∨ subject.AsksForCaller dot) (block.innerKind dot kind)) ∧
      second.Guarded asked dot ∧ rest.Guarded asked dot

/-! ## Pipelines -/

variable {r : Request}

/-- No field leads back to the request. -/
lemma Kind.field_ne_request (kind : Kind) (name : String) : kind.field name ≠ some .request := by
  intro h
  cases kind with
  | request | identity => simp only [Kind.field] at h; split at h <;> cases h
  | headers | text | flag => cases h

/-- A value that is there has the fields that the schema says, and only the caller of a request may
be absent among them. -/
lemma Value.field_of_present {v : Value} {kind inner : Kind} {name : String}
    (hv : HasKind r v kind) (hpresent : v ≠ .absent) (hname : kind.field name = some inner) :
    ∃ w, v.field name = .ok w ∧ HasKind r w inner ∧
      (w = .absent → kind = .request ∧ name = "Identity") := by
  have hyields := Value.field_yields hv hname
  cases hv with
  | absent h => exact absurd rfl hpresent
  | identity h =>
    simp only [Kind.field] at hname
    split at hname <;> cases hname <;> exact ⟨_, rfl, hyields, by simp⟩
  | request =>
    simp only [Kind.field] at hname
    split at hname
    · exact ⟨_, rfl, hyields, fun _ => ⟨rfl, rfl⟩⟩
    all_goals cases hname <;> exact ⟨_, rfl, hyields, by simp⟩
  | headers => exact ⟨_, rfl, hyields, by simp⟩
  | text s => exact absurd hname (by simp [Kind.field])
  | flag b => exact absurd hname (by simp [Kind.field])

/-- Fields of a value that is there can be followed, but for those that lead through the caller. -/
lemma foldlM_field_of_present {fields : List String} {v : Value} {kind last : Kind} {e : Error}
    (hv : HasKind r v kind) (hpresent : v ≠ .absent)
    (hfields : fields.foldlM Kind.field kind = some last)
    (herror : fields.foldlM Value.field v = .error e) :
    kind = .request ∧ ∃ field rest, fields = "Identity" :: field :: rest := by
  induction fields generalizing v kind with
  | nil => exact absurd herror (by simp [pure, Except.pure])
  | cons name fields ih =>
    rw [List.foldlM_cons] at hfields herror
    obtain ⟨inner, hinner, hrest⟩ := Option.bind_eq_some_iff.1 hfields
    obtain ⟨w, hw, hkind, habsent⟩ := Value.field_of_present hv hpresent hinner
    rw [hw] at herror
    by_cases hnone : w = .absent
    · obtain ⟨rfl, rfl⟩ := habsent hnone
      cases fields with
      | nil => exact absurd herror (by simp [bind, Except.bind, pure, Except.pure])
      | cons field rest => exact ⟨rfl, field, rest, rfl⟩
    · -- a second way into the caller would start at a request again
      obtain ⟨rfl, -⟩ := ih hkind hnone hrest herror
      exact absurd hinner (Kind.field_ne_request kind name)

/-- Nothing but reading a field of the caller makes a checked pipeline fail. -/
lemma Pipeline.readsCaller_of_eval_eq_error {p : Pipeline} {dot : Value} {outer kind : Kind}
    {e : Error} (hdot : HasKind r dot outer) (hpresent : dot ≠ .absent)
    (hp : p.kind? outer = some kind) (he : p.eval dot = .error e) : p.ReadsCaller := by
  cases p with
  | dot => exact absurd he (by simp [Pipeline.eval])
  | literal text => exact absurd he (by simp [Pipeline.eval])
  | path fields =>
    obtain ⟨-, field, rest, rfl⟩ := foldlM_field_of_present hdot hpresent hp he
    exact ⟨field, rest, rfl⟩

/-- A checked pipeline evaluates, if there is a caller in case it reads a field of the caller. -/
lemma Pipeline.eval_of_caller {p : Pipeline} {dot : Value} {outer kind : Kind}
    (hdot : HasKind r dot outer) (hpresent : dot ≠ .absent) (hp : p.kind? outer = some kind)
    (hcaller : p.ReadsCaller → r.identity.isSome) :
    ∃ v, p.eval dot = .ok v ∧ HasKind r v kind := by
  have hyields := Pipeline.eval_yields hdot hp
  cases hv : p.eval dot with
  | ok v =>
    rw [hv] at hyields
    exact ⟨v, rfl, hyields⟩
  | error e =>
    rw [hv] at hyields
    have hsome := hcaller (Pipeline.readsCaller_of_eval_eq_error hdot hpresent hp hv)
    simp [hyields.1] at hsome

/-- A block that asks for the caller finds one if it runs its first branch. -/
lemma Pipeline.AsksForCaller.isSome {p : Pipeline} {dot v : Value} {outer : Kind}
    (h : p.AsksForCaller outer) (hdot : HasKind r dot outer) (hv : p.eval dot = .ok v)
    (htrue : v.isTrue = true) : r.identity.isSome := by
  obtain ⟨rfl, rfl⟩ := h
  cases hdot with
  | request =>
    cases hcaller : r.identity with
    | some caller => rfl
    | none =>
      have habsent : v = .absent := by
        simpa [Pipeline.eval, Value.field, hcaller, eq_comm] using hv
      simp [habsent, Value.isTrue] at htrue

/-! ## Bodies -/

lemma joined_ok {first second : Except Error String} (hfirst : ∃ s, first = .ok s)
    (hsecond : ∃ t, second = .ok t) : ∃ u, joined first second = .ok u := by
  obtain ⟨s, rfl⟩ := hfirst
  obtain ⟨t, rfl⟩ := hsecond
  exact ⟨s ++ t, rfl⟩

/-- A well kinded body renders if all reading of the caller's fields is guarded, and there is a
caller in case a guard is around already. -/
lemma Body.render_of_guarded {b : Body} {asked : Prop} {dot : Value} {kind : Kind}
    (hb : b.WellKinded kind) (hguarded : b.Guarded asked kind) (hdot : HasKind r dot kind)
    (hpresent : dot ≠ .absent) (hcaller : asked → r.identity.isSome) :
    ∃ text, b.render dot = .ok text := by
  induction b generalizing asked dot kind with
  | done => exact ⟨"", rfl⟩
  | text cs rest ih => exact joined_ok ⟨cs, rfl⟩ (ih hb hguarded hdot hpresent hcaller)
  | print value rest ih =>
    obtain ⟨⟨printed, hvalue, hprintable⟩, hrest⟩ := hb
    obtain ⟨hreads, hothers⟩ := hguarded
    obtain ⟨v, hv, hkind⟩ :=
      Pipeline.eval_of_caller hdot hpresent hvalue fun h => hcaller (hreads h)
    simp only [Body.render, hv]
    exact joined_ok (Value.print_of_isPrintable hkind hprintable)
      (ih hrest hothers hdot hpresent hcaller)
  | branch block subject first second rest ihfirst ihsecond ihrest =>
    obtain ⟨⟨inner, hsubject, hfirst⟩, hsecond, hrest⟩ := hb
    obtain ⟨hreads, hinside, hotherwise, hothers⟩ := hguarded
    obtain ⟨v, hv, hkind⟩ :=
      Pipeline.eval_of_caller hdot hpresent hsubject fun h => hcaller (hreads h)
    simp only [Body.render, hv]
    refine joined_ok ?_ (ihrest hrest hothers hdot hpresent hcaller)
    split
    · rename_i htrue
      -- the branch runs, so its subject is there, and is the caller if the block asks for that
      have hinner : block.innerValue dot v ≠ .absent := by
        cases block with
        | test => exact hpresent
        | focus =>
          rintro rfl
          exact absurd htrue (by simp [Value.isTrue])
      refine ihfirst hfirst (hinside inner hsubject) (Block.innerValue_hasKind hdot hkind) hinner ?_
      rintro (hasked | hasks)
      · exact hcaller hasked
      · exact hasks.isSome hdot hv htrue
    · exact ihsecond hsecond hotherwise hdot hpresent hcaller

/-- A template in which all reading of the caller's fields is guarded gives a text for every
request. -/
lemma execute_of_guarded {source : String} {t : Template} (h : compile source = .ok t)
    (hguarded : t.body.Guarded False .request) (r : Request) : ∃ text, t.execute r = .ok text := by
  rw [execute]
  split
  · exact ⟨_, rfl⟩
  · exact Body.render_of_guarded (wellKinded_of_compile h) hguarded HasKind.request (by simp)
      False.elim

end Admission.Template
