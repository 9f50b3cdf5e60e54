/-
# Templates on requests that are alike

A template reads a request through its method, path, headers and caller only, so on requests that
agree on all of these it renders the same or has the same fault (`execute_of_alike`).  The values
that the template meets on the two requests need not be equal, because a value may be a whole
request; but they are alike, and that shows neither in their truth nor in their printed form.
-/
import Admission.Proofs.Request
import Admission.Template

namespace Admission.Template

/-! ## Values -/

/-- Two values that differ at most in requests that are alike. -/
inductive Value.Alike : Value → Value → Prop
  | refl (v : Value) : Alike v v
  | request {r s : Request} (h : r.Alike s) : Alike (.request r) (.request s)
  | headers {r s : Request} (h : r.Alike s) : Alike (.headers r) (.headers s)

/-- The same fault twice, or two values that are alike. -/
inductive Evaluated : Except Error Value → Except Error Value → Prop
  | error (e : Error) : Evaluated (.error e) (.error e)
  | ok {v w : Value} (h : v.Alike w) : Evaluated (.ok v) (.ok w)

lemma Evaluated.refl (result : Except Error Value) : Evaluated result result := by
  cases result with
  | error e => exact .error e
  | ok v => exact .ok (.refl v)

namespace Value.Alike

variable {v w : Value}

lemma isTrue_eq (h : v.Alike w) : v.isTrue = w.isTrue := by
  cases h <;> rfl

lemma print_eq (h : v.Alike w) : v.print = w.print := by
  cases h <;> rfl

lemma field (h : v.Alike w) (name : String) : Evaluated (v.field name) (w.field name) := by
  cases h with
  | refl v => exact .refl _
  | headers h =>
    rw [Value.field, Value.field, h.header]
    exact .refl _
  | request h =>
    simp only [Value.field, h.method, h.path, h.identity]
    split
    all_goals first | exact .refl _ | exact .ok (.headers h)

end Value.Alike

/-! ## Pipelines and bodies -/

lemma foldlM_field_of_alike {fields : List String} {v w : Value} (h : v.Alike w) :
    Evaluated (fields.foldlM Value.field v) (fields.foldlM Value.field w) := by
  induction fields generalizing v w with
  | nil => exact .ok h
  | cons name fields ih =>
    have hfield := h.field name
    rw [List.foldlM_cons, List.foldlM_cons]
    generalize v.field name = x, w.field name = y at hfield ⊢
    cases hfield with
    | error e => exact .error e
    | ok h => exact ih h

lemma Pipeline.eval_of_alike {v w : Value} (h : v.Alike w) (p : Pipeline) :
    Evaluated (p.eval v) (p.eval w) := by
  cases p with
  | dot => exact .ok h
  | literal text => exact .refl _
  | path fields => exact foldlM_field_of_alike h

lemma Block.innerValue_of_alike {v w x y : Value} (houter : v.Alike w) (hsubject : x.Alike y)
    (block : Block) : (block.innerValue v x).Alike (block.innerValue w y) := by
  cases block with
  | test => exact houter
  | focus => exact hsubject

lemma Body.render_of_alike {v w : Value} (h : v.Alike w) (b : Body) : b.render v = b.render w := by
  induction b generalizing v w with
  | done => rfl
  | text cs rest ih => rw [render, render, ih h]
  | print value rest ih =>
    have hvalue := value.eval_of_alike h
    rw [render, render, ih h]
    generalize value.eval v = x, value.eval w = y at hvalue ⊢
    cases hvalue with
    | error e => rfl
    | ok hprinted => simp only [hprinted.print_eq]
  | branch block subject first second rest ihfirst ihsecond ihrest =>
    have hsubject := subject.eval_of_alike h
    rw [render, render, ihrest h, ihsecond h]
    generalize subject.eval v = x, subject.eval w = y at hsubject ⊢
    cases hsubject with
    | error e => rfl
    | ok hvalue =>
      -- both take the same branch, and what becomes the current value there is alike again
      simp only [hvalue.isTrue_eq, ihfirst (Block.innerValue_of_alike h hvalue block)]

/-- A template does the same on requests that are alike. -/
lemma execute_of_alike {r s : Request} (h : r.Alike s) (t : Template) :
    t.execute r = t.execute s := by
  rw [execute, execute, Body.render_of_alike (.request h)]

end Admission.Template
