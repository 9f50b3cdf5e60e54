/-
# The kinds of values and of bodies

Reading a template follows every field name through the schema of kinds.  This file says what
has been checked once a template has been read: which values have which kind while a request is
served, which pipelines have a kind, and which bodies are well kinded.  The caller of an
anonymous request has the kind of callers, so a well kinded pipeline can still fail, but only on
a field of that caller.

The main results are

* `Pipeline.eval_yields`: a pipeline evaluates to a value of its kind, or it reads a field of
  an absent caller;
* `Body.render_yields`: a well kinded body renders, or it reads such a field.
-/
import Admission.Template
import Admission.Proofs.Template.Pipelines

namespace Admission.Template

/-! ## Values -/

/-- The values of each kind that can be met while the request `r` is served. -/
inductive HasKind (r : Request) : Value → Kind → Prop where
  | absent (h : r.identity = none) : HasKind r .absent .identity
  | identity {caller : Identity} (h : r.identity = some caller) :
    HasKind r (.identity caller) .identity
  | request : HasKind r (.request r) .request
  | headers : HasKind r (.headers r) .headers
  | text (s : String) : HasKind r (.text s) .text
  | flag (b : Bool) : HasKind r (.flag b) .flag

/-- The fields of the caller. -/
def callerFields : List String := ["Subject", "Tenant", "Plan", "IsDevice", "IsUser"]

/-- The outcomes of a checked computation for the request `r`: a result with the property `P`,
or the fault that a field of the caller was read although there is no caller. -/
def Yields {α : Type} (r : Request) (P : α → Prop) : Except Error α → Prop
  | .ok a => P a
  | .error e => r.identity = none ∧ ∃ f ∈ callerFields, e = .nilField f

variable {r : Request}

lemma mem_callerFields {name : String} {kind : Kind}
    (h : Kind.identity.field name = some kind) : name ∈ callerFields := by
  simp only [Kind.field] at h
  split at h <;> simp_all [callerFields]

/-- A field that the schema knows has the kind that the schema says. -/
lemma Value.field_yields {v : Value} {kind inner : Kind} {name : String}
    (hv : HasKind r v kind) (hname : kind.field name = some inner) :
    Yields r (HasKind r · inner) (v.field name) := by
  cases hv with
  | absent h => exact ⟨h, name, mem_callerFields hname, rfl⟩
  | identity h =>
    simp only [Kind.field] at hname
    split at hname <;> cases hname <;> constructor
  | request =>
    simp only [Kind.field] at hname
    split at hname
    · -- the caller, who may be absent
      cases hname
      cases h : r.identity with
      | none => simpa [Value.field, h, Yields] using HasKind.absent h
      | some caller => simpa [Value.field, h, Yields] using HasKind.identity h
    all_goals cases hname <;> constructor
  | headers => cases hname; constructor
  | text s => exact absurd hname (by simp [Kind.field])
  | flag b => exact absurd hname (by simp [Kind.field])

/-- A value of a printable kind has a printed form. -/
lemma Value.print_of_isPrintable {v : Value} {kind : Kind} (hv : HasKind r v kind)
    (hkind : kind.isPrintable = true) : ∃ s, v.print = .ok s := by
  cases hv with
  | text s => exact ⟨s, rfl⟩
  | flag b => exact ⟨_, rfl⟩
  | absent _ | identity _ | request | headers => exact absurd hkind (by simp [Kind.isPrintable])

/-! ## Pipelines -/

/-- The kind of a pipeline's value where the current value is of kind `dot`, if all fields
exist. -/
def Pipeline.kind? (dot : Kind) : Pipeline → Option Kind
  | .dot => some dot
  | .literal _ => some .text
  | .path fields => fields.foldlM Kind.field dot

lemma foldlM_field_yields {fields : List String} {v : Value} {kind last : Kind}
    (hv : HasKind r v kind) (hfields : fields.foldlM Kind.field kind = some last) :
    Yields r (HasKind r · last) (fields.foldlM Value.field v) := by
  induction fields generalizing v kind with
  | nil =>
    have : kind = last := by simpa using hfields
    exact this ▸ hv
  | cons name fields ih =>
    rw [List.foldlM_cons] at hfields ⊢
    obtain ⟨inner, hinner, hrest⟩ := Option.bind_eq_some_iff.1 hfields
    have hfield := Value.field_yields hv hinner
    cases hval : v.field name with
    | error e =>
      rw [hval] at hfield
      exact hfield
    | ok w =>
      rw [hval] at hfield
      exact ih hfield hrest

/-- A pipeline with a kind evaluates to a value of this kind, or it reads a field of an absent
caller. -/
lemma Pipeline.eval_yields {p : Pipeline} {dot : Value} {outer kind : Kind}
    (hdot : HasKind r dot outer) (hp : p.kind? outer = some kind) :
    Yields r (HasKind r · kind) (p.eval dot) := by
  cases p with
  | dot =>
    cases hp
    exact hdot
  | literal text =>
    cases hp
    exact HasKind.text text
  | path fields => exact foldlM_field_yields hdot hp

lemma Leads.foldlM_field {kind last : Kind} {names : List (List Char)}
    (h : Leads kind names last) :
    (names.map String.ofList).foldlM Kind.field kind = some last := by
  induction h with
  | nil => rfl
  | cons _ hfield _ ih =>
    rw [List.map_cons, List.foldlM_cons, hfield]
    exact ih

/-- The reader reports the kind of the pipeline that it reads. -/
lemma Pipeline.kind?_of_read {dot kind : Kind} {source : List Char} {p : Pipeline}
    (h : Pipeline.read dot source = .ok (p, kind)) : p.kind? dot = some kind := by
  have hwritten := Pipeline.read_eq_ok_iff.1 h
  generalize Text.trim source = text at hwritten
  cases hwritten with
  | dot => rfl
  | literal _ => rfl
  | path _ hnames => exact hnames.foldlM_field

/-! ## Bodies -/

/-- Every pipeline of a body has a kind where the current value is of kind `dot`, and what is
printed is printable.  The first branch of a block is judged with the block's inner kind, the
second one with the kind around the block. -/
def Body.WellKinded (dot : Kind) : Body → Prop
  | .done => True
  | .text _ rest => rest.WellKinded dot
  | .print value rest =>
    (∃ kind, value.kind? dot = some kind ∧ kind.isPrintable = true) ∧ rest.WellKinded dot
  | .branch block subject first second rest =>
    (∃ kind, subject.kind? dot = some kind ∧ first.WellKinded (block.innerKind dot kind)) ∧
      second.WellKinded dot ∧ rest.WellKinded dot

lemma Body.WellKinded.append {dot : Kind} {a b : Body} (ha : a.WellKinded dot)
    (hb : b.WellKinded dot) : (a ++ b).WellKinded dot := by
  induction a with
  | done => exact hb
  | text cs rest ih => exact ih ha
  | print value rest ih => exact ⟨ha.1, ih ha.2⟩
  | branch block subject first second rest _ _ ih => exact ⟨ha.1, ha.2.1, ih ha.2.2⟩

lemma Block.innerValue_hasKind {block : Block} {dot subject : Value} {outer kind : Kind}
    (hdot : HasKind r dot outer) (hsubject : HasKind r subject kind) :
    HasKind r (block.innerValue dot subject) (block.innerKind outer kind) := by
  cases block with
  | test => exact hdot
  | focus => exact hsubject

lemma joined_yields {first second : Except Error String}
    (hfirst : Yields r (fun _ => True) first) (hsecond : Yields r (fun _ => True) second) :
    Yields r (fun _ => True) (joined first second) := by
  cases first with
  | error e => exact hfirst
  | ok s =>
    cases second with
    | error e => exact hsecond
    | ok t => trivial

/-- A well kinded body renders at every value of its kind, or it reads a field of an absent
caller. -/
lemma Body.render_yields {b : Body} {dot : Value} {kind : Kind} (hb : b.WellKinded kind)
    (hdot : HasKind r dot kind) : Yields r (fun _ => True) (b.render dot) := by
  induction b generalizing dot kind with
  | done => trivial
  | text cs rest ih => exact joined_yields trivial (ih hb hdot)
  | print value rest ih =>
    obtain ⟨⟨printed, hvalue, hprintable⟩, hrest⟩ := hb
    have heval := Pipeline.eval_yields hdot hvalue
    rw [Body.render]
    cases hv : value.eval dot with
    | error e =>
      rw [hv] at heval
      exact heval
    | ok v =>
      rw [hv] at heval
      obtain ⟨s, hs⟩ := Value.print_of_isPrintable heval hprintable
      exact joined_yields (hs ▸ trivial) (ih hrest hdot)
  | branch block subject first second rest ihfirst ihsecond ihrest =>
    obtain ⟨⟨inner, hsubject, hfirst⟩, hsecond, hrest⟩ := hb
    have heval := Pipeline.eval_yields hdot hsubject
    rw [Body.render]
    cases hv : subject.eval dot with
    | error e =>
      rw [hv] at heval
      exact heval
    | ok v =>
      rw [hv] at heval
      refine joined_yields ?_ (ihrest hrest hdot)
      split
      · exact ihfirst hfirst (Block.innerValue_hasKind hdot heval)
      · exact ihsecond hsecond hdot

end Admission.Template
